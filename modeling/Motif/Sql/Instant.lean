import Motif.Sql.Number

/-!
Points in time: a count of thousandths of seconds, a date and a time of day, each of which is worked
out from the others when it is asked for.
-/

set_option autoImplicit false

namespace Motif.Sql

structure Date where
  year : Int
  month : Int
  day : Int

def Date.carried (d : Date) : Date :=
  let years := if 0 < d.month then (d.month - 1).tdiv 12 else (d.month - 12).tdiv 12
  { d with year := d.year + years, month := d.month - 12 * years }

structure TimeOfDay where
  hour : Int
  minute : Int
  second : Float

/-- A point in time, as far as it has been worked out. -/
structure Instant where
  count? : Option Int
  date? : Option Date
  time? : Option TimeOfDay
  /-- The number that it has been given by, as long as it is not known what it counts. -/
  number? : Option Float
  zone : Int
  /-- It has been said which clock shows it. -/
  isZoned : Bool

namespace Instant

def empty : Instant := ⟨none, none, none, none, 0, false⟩

def perDay : Int := 86400000

def isValid (count : Int) : Bool := 0 ≤ count && count ≤ 464269060799999

def countOf (d : Date) : Int :=
  let (year, month) := if d.month ≤ 2 then (d.year - 1, d.month + 12) else (d.year, d.month)
  let century := year.tdiv 100
  let days := (36525 * (year + 4716)).tdiv 100 + (306001 * (month + 1)).tdiv 10000 + d.day + 2 -
    century + century.tdiv 4
  (2 * days - 3049) * (perDay / 2)

def dateOf (count : Int) : Date :=
  let z := (count + perDay / 2).tdiv perDay
  let century := (4 * z - 7468865).tdiv 146097
  let b := z + 1 + century - century.tdiv 4 + 1524
  let c := (100 * b - 12210).tdiv 36525
  let front := (36525 * c).tdiv 100
  let e := (10000 * (b - front)).tdiv 306001
  let month := if e < 14 then e - 1 else e - 13
  ⟨if 2 < month then c - 4716 else c - 4715, month, b - front - (306001 * e).tdiv 10000⟩

/-- Works out the count. Dates that are too far away have none, and no number that is not known to
count days. -/
def counted (t : Instant) : Option Instant :=
  if t.count?.isSome then some t
  else
    let date := t.date?.getD ⟨2000, 1, 1⟩
    if date.year < -4713 ∨ 9999 < date.year ∨ t.number?.isSome then none
    else
      let midnight := countOf date
      match t.time? with
      | none => some { t with count? := some midnight }
      | some time =>
        let count := midnight + time.hour * 3600000 + time.minute * 60000 +
          Number.truncate (time.second * 1000.0)
        if t.zone = 0 then some { t with count? := some count }
        else
          some { t with
            count? := some (count - t.zone * 60000), date? := none, time? := none, zone := 0 }

def dated (t : Instant) : Option Instant :=
  match t.date?, t.count? with
  | some _, _ => some t
  | none, none => some { t with date? := some ⟨2000, 1, 1⟩ }
  | none, some count =>
    if isValid count then some { t with date? := some (dateOf count) } else none

def timed (t : Instant) : Option Instant := do
  if t.time?.isSome then return t
  let t ← t.counted
  let count ← t.count?
  let seconds := Float.ofInt ((count + perDay / 2).tmod perDay) / 1000.0
  let whole := Number.truncate seconds
  let hour := whole / 3600
  let minute := whole % 3600 / 60
  let second := seconds - Float.ofInt whole + Float.ofInt (whole % 60)
  return { t with time? := some ⟨hour, minute, second⟩, number? := none }

def bare (t : Instant) : Instant := { t with date? := none, time? := none, zone := 0 }

def after (t : Instant) (count : Int) : Option Instant := do
  let t ← t.counted
  return { t.bare with count? := t.count?.map (· + count) }

def ofNumber (x : Float) : Instant :=
  let count? : Option Int :=
    if 0.0 ≤ x ∧ x < 5373484.5 then some (Number.truncate (x * 86400000.0 + 0.5)) else none
  { empty with count?, number? := some x }

def ofCount (count : Int) : Instant := { empty with count? := some count }

def startOf (t : Instant) (change : Date → Date) : Option Instant := do
  if t.count?.isNone ∧ t.date?.isNone ∧ t.time?.isNone then none
  let t ← t.dated
  return { t with
    count? := none, date? := t.date?.map change, time? := some ⟨0, 0, 0.0⟩, number? := none,
    zone := 0 }

def redated (t : Instant) (change : Date → Date) : Option Instant := do
  let t ← (← (← t.counted).dated).timed
  { t with count? := none, date? := t.date?.map change }.counted

def onWeekday (t : Instant) (day : Int) : Option Instant := do
  let t ← (← t.dated).timed
  let t ← { t with count? := none, zone := 0 }.counted
  let count ← t.count?
  let own := ((count + 129600000).tdiv perDay).tmod 7
  let own := if day < own then own - 7 else own
  t.after ((day - own) * perDay)

def settled (t : Instant) : Option Instant := do
  let t ← t.counted
  if !t.count?.any isValid then none
  (← t.dated).timed

end Instant

end Motif.Sql
