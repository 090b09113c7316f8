import Motif.Sql.Aggregate
import Motif.Sql.Window

/-!
Functions of the rows around a row: which rows these are, and what the functions make of them.
-/

set_option autoImplicit false

namespace Motif.Sql

open Database (Cell)

/-- Rows that belong together, in order: which are equal, told by numbers that go up, and the value
by which distances between them are told. -/
structure Partition where
  groups : Array Nat
  values : Array Cell
  compare : Cell → Cell → Ordering
  descending : Bool

namespace Partition

def size (p : Partition) : Nat := p.groups.size

def group (p : Partition) (row : Nat) : Nat := p.groups[row]?.getD 0

def firstRow (p : Partition) (holds : Nat → Bool) : Nat :=
  ((List.range p.size).find? holds).getD p.size

def bound (p : Partition) (row : Nat) (isBefore : Bool) (distance : Cell) : Cell :=
  match p.values[row]?.getD .null with
  | .integer n =>
    (if isBefore = p.descending then Arithmetic.add else .subtract).apply (.integer n) distance
  | .real bits =>
    (if isBefore = p.descending then Arithmetic.add else .subtract).apply (.real bits) distance
  | c => c

/-- Where the rows begin that are looked at for a row. -/
def first (p : Partition) (spacing : Spacing) (row : Nat) : Edge Cell → Nat
  | .unbounded => 0
  | .current =>
    match spacing with
    | .rows => row
    | _ => p.firstRow fun r => p.group row ≤ p.group r
  | .before d => moved true d
  | .after d => moved false d
where
  moved (isBefore : Bool) (d : Cell) : Nat :=
    let count := d.toInt.toNat
    let move (n : Nat) : Nat := if isBefore then n - count else n + count
    match spacing with
    | .rows => move row
    | .groups => p.firstRow fun r => move (p.group row) ≤ p.group r
    | .range =>
      let b := p.bound row isBefore d
      p.firstRow fun r => p.compare (p.values[r]?.getD .null) b != .lt

/-- Where the rows end that are looked at for a row. -/
def last (p : Partition) (spacing : Spacing) (row : Nat) : Edge Cell → Nat
  | .unbounded => p.size
  | .current =>
    match spacing with
    | .rows => row + 1
    | _ => p.firstRow fun r => p.group row < p.group r
  | .before d => moved true d
  | .after d => moved false d
where
  moved (isBefore : Bool) (d : Cell) : Nat :=
    let count := d.toInt.toNat
    let move (n : Nat) : Nat := if isBefore then n - count else n + count
    match spacing with
    | .rows => move (row + 1)
    | .groups => p.firstRow fun r => move (p.group row + 1) ≤ p.group r
    | .range =>
      let b := p.bound row isBefore d
      p.firstRow fun r => p.compare (p.values[r]?.getD .null) b == .gt

def rows (p : Partition) (frame : Frame Cell) (row : Nat) : List Nat :=
  let first := p.first frame.spacing row frame.first
  let last := min p.size (p.last frame.spacing row frame.last)
  let isIn (r : Nat) : Bool :=
    match frame.exclusion with
    | .none => true
    | .current => r ≠ row
    | .group => p.group r ≠ p.group row
    | .ties => r = row || p.group r ≠ p.group row
  ((List.range last).drop first).filter isIn

end Partition

namespace Windowed

def takes? (name : String) : Option (Nat → Bool) :=
  match Token.lower name with
  | "row_number" | "rank" | "dense_rank" | "percent_rank" | "cume_dist" => some (· = 0)
  | "ntile" | "first_value" | "last_value" => some (· = 1)
  | "nth_value" => some (· = 2)
  | "lag" | "lead" => some fun n => 1 ≤ n && n ≤ 3
  | _ => none

def moved? (row : Nat) (isBack : Bool) (distance : Cell) : Option Nat :=
  let sum := (if isBack then Arithmetic.subtract else .add).apply (.integer row) distance
  match sum.prefer .numeric with
  | .integer n => if n < 0 then none else some n.toNat
  | _ => none

def heap (count size row : Nat) : Nat :=
  let low := size / count
  if low = 0 then row + 1
  else
    let larger := size - count * low
    if row < larger * (low + 1) then 1 + row / (low + 1)
    else 1 + larger + (row - larger * (low + 1)) / low

/-- The value of such a function for a row, given the arguments for each row and the rows that are
looked at. -/
def apply (name : String) (p : Partition) (arguments : Array (List Cell)) (frame : List Nat)
    (row : Nat) : Except Flaw Cell :=
  let argument (r i : Nat) : Cell := ((arguments[r]?.getD [])[i]?).getD .null
  let before := p.firstRow fun r => p.group row ≤ p.group r
  let beyond := p.firstRow fun r => p.group row < p.group r
  let shifted (isBack : Bool) : Cell :=
    let own := arguments[row]?.getD []
    match moved? row isBack (own[1]?.getD (.integer 1)) with
    | some r => if r < p.size then argument r 0 else own[2]?.getD .null
    | none => own[2]?.getD .null
  match Token.lower name with
  | "row_number" => .ok (.integer (row + 1))
  | "rank" => .ok (.integer (before + 1))
  | "dense_rank" => .ok (.integer (p.group row + 1))
  | "percent_rank" =>
    .ok (.ofFloat (if p.size < 2 then 0.0 else before.toFloat / (p.size - 1).toFloat))
  | "cume_dist" => .ok (.ofFloat (beyond.toFloat / p.size.toFloat))
  | "ntile" =>
    let count := (argument 0 0).toInt
    if count ≤ 0 then .error (.windowCount "argument of" "ntile")
    else .ok (.integer (heap count.toNat p.size row))
  | "lag" => .ok (shifted true)
  | "lead" => .ok (shifted false)
  | "first_value" => .ok ((frame.head?.map fun r => argument r 0).getD .null)
  | "last_value" => .ok ((frame.getLast?.map fun r => argument r 0).getD .null)
  | _ =>
    match (argument row 1).prefer .numeric with
    | .integer n =>
      if n ≤ 0 then .error (.windowCount "second argument to" "nth_value")
      else .ok ((frame[n.toNat - 1]?.map fun r => argument r 0).getD .null)
    | _ => .error (.windowCount "second argument to" "nth_value")

def distance (isRange : Bool) (flaw : Flaw) (c : Cell) : Except Flaw Cell :=
  match c.prefer .numeric with
  | .integer n => if n < 0 then .error flaw else .ok (.integer n)
  | .real bits =>
    if isRange ∧ 0.0 ≤ Cell.floatOf bits then .ok (.real bits) else .error flaw
  | _ => .error flaw

end Windowed

end Motif.Sql
