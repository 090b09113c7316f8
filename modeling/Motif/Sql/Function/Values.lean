import Motif.Sql.Format
import Motif.Sql.Function.Basic

/-!
What functions make of numbers and of texts.
-/

set_option autoImplicit false

namespace Motif.Sql.Function

open Database (Cell)
open Pattern (Character characters)

def absolute (c : Cell) : Except Flaw Cell :=
  match c with
  | .integer n =>
    if n = Number.smallest then .error .integerOverflow else .ok (.integer n.natAbs)
  | c => .ok (.ofFloat c.toFloat.abs)

def signOf (c : Cell) : Cell :=
  let sign (x : Float) : Cell := .integer (if x < 0.0 then -1 else if 0.0 < x then 1 else 0)
  match c with
  | .text b =>
    match Cell.numberIfSame b with
    | .text _ => .null
    | number => sign number.toFloat
  | .integer _ | .real _ => sign c.toFloat
  | _ => .null

def textCharacters (c : Cell) : List Character := characters (c.bytes.takeWhile (· ≠ 0))

def length (c : Cell) : Cell :=
  match c with
  | .blob b => .integer b.length
  | .text _ => .integer (textCharacters c).length
  | c => .integer c.bytes.length

/-- A part of a list: `start` counts from one, or from the end if it is negative; a negative
`count` takes what is in front. What lies outside of the list is counted, but not there. -/
def part {α : Type} (list : List α) (start : Int) (count? : Option Int) : List α :=
  let size : Int := list.length
  let count : Int := (count?.getD (size + start.natAbs + 1)).natAbs
  let (first, count) :=
    if start < 0 then
      if size + start < 0 then (0, max 0 (count + size + start)) else (size + start, count)
    else if 0 < start then (start - 1, count)
    else (0, max 0 (count - 1))
  let (first, count) :=
    if count?.any (· < 0) then
      if first < count then (0, first) else (first - count, count)
    else (first, count)
  (list.drop first.toNat).take count.toNat

def substring (arguments : List Cell) : Cell :=
  match arguments with
  | c :: start :: count =>
    let count? := count.head?.map Cell.toInt
    match c with
    | .blob b => .blob (part b start.toInt count?)
    | c => .text (part (textCharacters c) start.toInt count?).flatten
  | _ => .null

def find {α : Type} [BEq α] (wanted : List α) : Nat → List α → Nat
  | place, [] => if wanted.isEmpty then place else 0
  | place, c :: rest =>
    if wanted.isPrefixOf (c :: rest) then place else find wanted (place + 1) rest

def position (arguments : List Cell) : Cell :=
  match arguments with
  | [.blob b, .blob wanted] => .integer (find wanted 1 b)
  | [c, wanted] => .integer (find (characters wanted.bytes) 1 (characters c.bytes))
  | _ => .null

def replaceAll (wanted other : List Nat) (text : List Nat) : List Nat :=
  match text with
  | [] => []
  | b :: rest =>
    if !wanted.isEmpty ∧ wanted.isPrefixOf (b :: rest) then
      other ++ replaceAll wanted other (rest.drop (wanted.length - 1))
    else b :: replaceAll wanted other rest
termination_by text.length
decreasing_by all_goals simp only [List.length_drop, List.length_cons]; omega

def trim (front back : Bool) (arguments : List Cell) : Cell :=
  match arguments with
  | c :: set =>
    let unwanted := (set.head?.map fun s => characters s.bytes).getD [[32]]
    let cut (list : List Character) : List Character := list.dropWhile fun d => unwanted.contains d
    let kept := if front then cut (characters c.bytes) else characters c.bytes
    .text (if back then (cut kept.reverse).reverse else kept).flatten
  | [] => .null

def hexDigit (n : Nat) : Nat := if n < 10 then 48 + n else 55 + n

def hex (b : List Nat) : List Nat := b.flatMap fun n => [hexDigit (n / 16), hexDigit (n % 16)]

/-- A value as it would be written in a statement. A real number has as many digits as it needs. -/
def quote (c : Cell) : Cell :=
  match c with
  | .null => .ofText "NULL"
  | .real _ =>
    if (Number.real c.bytes).2 == c.toFloat then .text c.bytes
    else Format.ofValues [.ofText "%!.20e", c]
  | .text b => .text ([39] ++ (b.flatMap fun n => if n = 39 then [39, 39] else [n]) ++ [39])
  | .blob b => .text ([88, 39] ++ hex b ++ [39])
  | c => .text c.bytes

def codeOf (c : Cell) : Cell :=
  match textCharacters c with
  | [] => .null
  | first :: _ =>
    match first with
    | [b] => .integer b
    | b :: rest =>
      let lead := if b < 0xe0 then b - 0xc0 else if b < 0xf0 then b - 0xe0 else b - 0xf0
      .integer (Int.ofNat (rest.foldl (fun n d => 64 * n + d % 64) lead))
    | [] => .null

def ofCodes (arguments : List Cell) : Cell :=
  let character (c : Cell) : List Nat :=
    let n := c.toInt
    let code := if n < 0 ∨ 0x10ffff < n then 0xfffd else n.toNat
    bytesOf (Char.ofNat code).toString
  .text (arguments.flatMap character)

/-- Rounds to some places behind the point; a half goes away from zero. -/
def round (arguments : List Cell) : Cell :=
  match arguments with
  | c :: places =>
    let x := c.toFloat
    let n := (max 0 (min 30 ((places.head?.map Cell.toInt).getD 0))).toNat
    if x < -4503599627370496.0 ∨ 4503599627370496.0 < x then .ofFloat x
    else if n = 0 then
      .ofFloat (Float.ofInt (Number.truncate (x + if x < 0.0 then -0.5 else 0.5)))
    else
      let (m, e) := Number.parts x.abs
      let top := m * Number.pow 2 e.toNat * Number.pow 10 n
      let rounded := Number.scaled (Number.nearest top (Number.pow 2 (-e).toNat)) (-Int.ofNat n)
      .ofFloat (if x < 0.0 then -rounded else rounded)
  | [] => .null

def extreme (wanted : Ordering) (collation : Collation) (arguments : List Cell) : Cell :=
  if arguments.any Cell.isNull then .null
  else
    match arguments with
    | [] => .null
    | first :: rest =>
      rest.foldl (fun best c => if collation.compare c best == wanted then c else best) first

def like (arguments : List Cell) : Except Flaw Cell :=
  let pattern := (arguments.head?.map fun c => characters c.bytes).getD []
  let text := ((arguments.drop 1).head?.map fun c => characters c.bytes).getD []
  match arguments.drop 2 with
  | [] => .ok (.ofBool (Pattern.like none pattern text))
  | escape :: _ =>
    match characters escape.bytes with
    | [c] => .ok (.ofBool (Pattern.like (some c) pattern text))
    | _ => .error .escapeSize

def glob (arguments : List Cell) : Cell :=
  let list (c : Cell) : List Character := characters c.bytes
  match arguments with
  | [pattern, text] => .ofBool (Pattern.glob ((list pattern).length + 1) (list pattern) (list text))
  | _ => .null

def soundOf (b : Nat) : Nat :=
  let letters : List String := ["BFPV", "CGJKQSXZ", "DT", "L", "MN", "R"]
  ((letters.findIdx? fun l => (bytesOf l).contains (Collation.upperByte b)).map (· + 1)).getD 0

/-- Four characters that tell how a word sounds: its first letter, and the sounds that follow. -/
def soundex (c : Cell) : Cell :=
  let isLetter (b : Nat) : Bool := 65 ≤ Collation.upperByte b && Collation.upperByte b ≤ 90
  match (textCharacters c).flatten.dropWhile fun b => !isLetter b with
  | [] => .ofText "?000"
  | first :: rest =>
    let (found, _) := rest.foldl (fun (found, previous) b =>
      let own := soundOf (b % 128)
      (if own = 0 ∨ own = previous then found else found ++ [48 + own], own)) ([], soundOf first)
    .text (Collation.upperByte first :: (found ++ [48, 48, 48]).take 3)

end Motif.Sql.Function
