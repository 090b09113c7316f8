import Motif.Sql.Format
import Motif.Sql.Instant
import Motif.Sql.Token

/-!
Points in time as they are written: how they are read, changed by what is written behind them, and
written in turn. Texts are given by their bytes.
-/

set_option autoImplicit false

namespace Motif.Sql.Instant

open Database (Cell)

def digits? (count least most : Nat) (text : List Nat) : Option (Int × List Nat) :=
  let front := text.take count
  let n := Number.value front
  if front.length = count ∧ front.all Number.isDigit ∧ least ≤ n ∧ n ≤ most then
    some (n, text.drop count)
  else none

def mark? (mark : Nat) (text : List Nat) : Option (List Nat) :=
  if text.head? = some mark then some (text.drop 1) else none

def skip (text : List Nat) : List Nat := text.dropWhile Number.isSpace

/-- How far ahead the clock is: the end of a text. If nothing is said of it the clock is not
ahead. -/
def zone? (text : List Nat) : Option (Option Int) :=
  match skip text with
  | [] => some none
  | mark :: rest =>
    if mark = 90 ∨ mark = 122 then if (skip rest).isEmpty then some (some 0) else none
    else if mark = 43 ∨ mark = 45 then do
      let (hours, rest) ← digits? 2 0 14 rest
      let (minutes, rest) ← digits? 2 0 59 (← mark? 58 rest)
      let ahead := 60 * hours + minutes
      if (skip rest).isEmpty then some (some (if mark = 45 then -ahead else ahead)) else none
    else none

def seconds? (text : List Nat) : Option (Float × List Nat) := do
  let (whole, rest) ← digits? 2 0 59 text
  let fraction := if rest.headD 0 = 46 then Number.digits (rest.drop 1) else []
  if fraction.isEmpty then return (Float.ofInt whole, rest)
  let (n, scale) := fraction.foldl (fun (n, scale) b =>
    (n * 10.0 + Float.ofNat b - 48.0, scale * 10.0)) ((0.0 : Float), (1.0 : Float))
  return (Float.ofInt whole + n / scale, rest.drop (1 + fraction.length))

def withTime? (t : Instant) (text : List Nat) : Option Instant := do
  let (hour, rest) ← digits? 2 0 24 text
  let (minute, rest) ← digits? 2 0 59 (← mark? 58 rest)
  let (second, rest) ← match rest with
    | 58 :: rest => seconds? rest
    | _ => some (0.0, rest)
  let zone ← zone? rest
  return { t with
    count? := none, number? := none, time? := some ⟨hour, minute, second⟩, zone := zone.getD 0,
    isZoned := t.isZoned || zone.isSome }

def ofDateText? (text : List Nat) : Option Instant := do
  let isNegative := text.headD 0 = 45
  let (year, rest) ← digits? 4 0 9999 (if isNegative then text.drop 1 else text)
  let (month, rest) ← digits? 2 1 12 (← mark? 45 rest)
  let (day, rest) ← digits? 2 1 31 (← mark? 45 rest)
  let rest := rest.dropWhile fun b => Number.isSpace b || b = 84
  let t ← match empty.withTime? rest with
    | some t => some t
    | none => if rest.isEmpty then some empty else none
  let t := { t with date? := some ⟨if isNegative then -year else year, month, day⟩ }
  if t.zone = 0 then some t else t.counted

def isWord (word : String) (text : List Nat) : Bool := Token.lower (Text.Utf8.text text) == word

def numeral? (text : List Nat) : Option Float :=
  match Number.real text with
  | (.integer, x) | (.decimal, x) => some x
  | _ => none

/-- Why a text tells no instant. -/
inductive Failure where
  | unreadable
  | clock
deriving DecidableEq

def orUnreadable {α : Type} (found? : Option α) : Except Failure α :=
  match found? with
  | some found => .ok found
  | none => .error .unreadable

/-- Reads an instant, `now?` being the count at present if that may be looked up. -/
def ofText (now? : Option Int) (text : List Nat) : Except Failure Instant :=
  match (ofDateText? text).or (empty.withTime? text) with
  | some t => .ok t
  | none =>
    if isWord "now" text then
      match now? with
      | some count => .ok (ofCount count)
      | none => .error .clock
    else orUnreadable ((numeral? text).map ofNumber)

def spans : List (String × Float × Float) :=
  [("second", 464269060800.0, 1000.0), ("minute", 7737817680.0, 60000.0),
    ("hour", 128963628.0, 3600000.0), ("day", 5373485.0, 86400000.0),
    ("month", 176546.0, 2592000000.0), ("year", 14713.0, 31536000000.0)]

/-- Goes on by a number of spans. Whole months and years change the date. -/
def onBySpans? (t : Instant) (x : Float) (name : List Nat) : Option Instant := do
  let name := Token.lower (Text.Utf8.text name)
  if name.length < 3 ∨ 10 < name.length then none
  let name := if name.endsWith "s" then (name.dropEnd 1).toString else name
  let t ← t.counted
  let (_, limit, length) ← spans.find? fun s => s.1 == name
  if !(-limit < x ∧ x < limit) then none
  let whole := Number.truncate x
  let rest := x - Float.ofInt whole
  let (t, x) ← match name with
    | "month" => do
      let t ← t.redated fun d => { d with month := d.month + whole }.carried
      pure (t, rest)
    | "year" => do
      let t ← t.redated fun d => { d with year := d.year + whole }
      pure (t, rest)
    | _ => pure (t, x)
  t.after (Number.truncate (x * length + if x < 0.0 then -0.5 else 0.5))

def onByTime? (t : Instant) (text : List Nat) : Option Instant := do
  let time := if Number.isDigit (text.headD 0) then text else text.drop 1
  let other ← (← empty.withTime? time).counted
  let count := ((← other.count?) - perDay / 2).tmod perDay
  t.after (if text.headD 0 = 45 then -count else count)

def onBy? (t : Instant) (text : List Nat) : Option Instant := do
  let inside := (text.drop 1).takeWhile fun b => b ≠ 58 && !Number.isSpace b
  let front := text.take 1 ++ inside
  let x ← numeral? front
  let rest := text.drop front.length
  if rest.headD 0 = 58 then t.onByTime? text else t.onBySpans? x (skip rest)

def ofSeconds? (t : Instant) : Option Instant := do
  let x := (← t.number?) * 1000.0 + 210866760000000.0
  if 0.0 ≤ x ∧ x < 464269060800000.0 then
    some { t.bare with count? := some (Number.truncate (x + 0.5)), number? := none }
  else none

/-- Changes an instant as a text says. All clocks show the same time. -/
def changed (now? : Option Int) (t : Instant) (text : List Nat) : Except Failure Instant :=
  let behind? (front : String) : Option (List Nat) :=
    if isWord front (text.take front.length) then some (text.drop front.length) else none
  if isWord "localtime" text then
    if now?.isNone then .error .clock else orUnreadable (t.after 0)
  else if isWord "utc" text then
    if now?.isNone then .error .clock
    else if t.isZoned then .ok t
    else (orUnreadable (t.after 0)).map fun t => { t with isZoned := true }
  else
    orUnreadable <|
      if isWord "unixepoch" text then t.ofSeconds?
      else
        match behind? "weekday ", behind? "start of " with
        | some day, _ => do
          let x ← numeral? day
          let n := Number.truncate x
          if Float.ofInt n == x ∧ 0 ≤ n ∧ n < 7 then t.onWeekday n else none
        | none, some unit =>
          if isWord "month" unit then t.startOf fun d => { d with day := 1 }
          else if isWord "year" unit then t.startOf fun d => { d with month := 1, day := 1 }
          else if isWord "day" unit then t.startOf id
          else none
        | none, none =>
          let first := text.headD 0
          if first = 43 ∨ first = 45 ∨ Number.isDigit first then t.onBy? text else none

/-- The instant that values tell: the first one, and how it is changed by the others; without any it
is the present one. -/
def ofCells (now? : Option Int) (cells : List Cell) : Except Failure Instant := do
  let text (c : Cell) : Except Failure (List Nat) :=
    if c.isNull then .error .unreadable else .ok (c.bytes.takeWhile (· ≠ 0))
  match cells with
  | [] =>
    match now? with
    | some count => orUnreadable (ofCount count).settled
    | none => .error .clock
  | first :: changes =>
    let start ← match first with
      | .integer _ | .real _ => pure (ofNumber first.toFloat)
      | c => do ofText now? (← text c)
    let t ← changes.foldlM (fun t c => do changed now? t (← text c)) start
    orUnreadable t.settled

def padded (width : Nat) (n : Int) : List Nat :=
  let digits := Format.Directive.digits 10 n.natAbs
  let sign := if n < 0 then [45] else []
  sign ++ Format.noughts (width - sign.length - digits.length) ++ digits

def dateText (d : Date) : List Nat :=
  padded 4 d.year ++ [45] ++ padded 2 d.month ++ [45] ++ padded 2 d.day

def timeText (t : TimeOfDay) : List Nat :=
  padded 2 t.hour ++ [58] ++ padded 2 t.minute ++ [58] ++ padded 2 (Number.truncate t.second)

/-- What a letter behind a mark stands for, all of an instant being worked out. -/
def part? (letter : Nat) (count : Int) (d : Date) (t : TimeOfDay) : Option (List Nat) :=
  let formatted (form : String) (x : Float) : List Nat :=
    (Format.ofValues [.ofText form, .ofFloat x]).bytes
  let daysSince : Int :=
    let start : Instant := { empty with date? := some ⟨d.year, 1, 1⟩, time? := some t }
    (count - ((start.counted.bind Instant.count?).getD 0) + perDay / 2).tdiv perDay
  match Char.ofNat letter with
  | 'd' => some (padded 2 d.day)
  | 'f' => some (formatted "%06.3f" (if 59.999 < t.second then 59.999 else t.second))
  | 'H' => some (padded 2 t.hour)
  | 'W' =>
    let weekday := ((count + perDay / 2).tdiv perDay).tmod 7
    some (padded 2 ((daysSince + 7 - weekday).tdiv 7))
  | 'j' => some (padded 3 (daysSince + 1))
  | 'J' => some (formatted "%.16g" (Float.ofInt count / 86400000.0))
  | 'm' => some (padded 2 d.month)
  | 'M' => some (padded 2 t.minute)
  | 's' => some (padded 1 (count.tdiv 1000 - 210866760000))
  | 'S' => some (padded 2 (Number.truncate t.second))
  | 'w' => some (padded 1 (((count + 129600000).tdiv perDay).tmod 7))
  | 'Y' => some ((padded 4 d.year).take 4)
  | '%' => some [37]
  | _ => none

def patternText? (count : Int) (d : Date) (t : TimeOfDay) : List Nat → Option (List Nat)
  | [] => some []
  | 37 :: rest =>
    match rest with
    | [] => none
    | letter :: rest => do
      let own ← part? letter count d t
      return own ++ (← patternText? count d t rest)
  | b :: rest => (patternText? count d t rest).map (b :: ·)

end Motif.Sql.Instant
