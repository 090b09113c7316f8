import Motif.Database.Plan.Clause

/-!
Columns whose value is known: where a condition tells it, the others are worked out with it, and so
before the table is read.
-/

set_option autoImplicit false

namespace Motif.Database

open Sql

namespace Meaning

def known (r : Read) (affinity? : Option Affinity) (e : Meaning) : Meaning :=
  { made (.known r) [e] fun m => do return (← e.value m).prefer (affinity?.getD .blob) with
    affinity := affinity? }

def toldBy? (e : Meaning) : Option (Read × Meaning) :=
  let tells (column value : Meaning) : Option (Read × Meaning) :=
    match column.column with
    | some r =>
      if value.isConstant && value.affinity.isNone then some (r, known r column.affinity value)
      else none
    | none => none
  match e.operation, e.parts with
  | .compare .equal isTurned, [a, b] =>
    let name? := if isTurned then jointCollation b a else jointCollation a b
    if sameName (name?.getD "binary") "binary" then (tells b a).or (tells a b) else none
  | _, _ => none

end Meaning

def Row.withCell (place? : Option Nat) (value : Except Error Cell) (row : Row) : Row :=
  match place? with
  | some place => { row with cell := fun i => if i = place then value else row.cell i }
  | none => { row with number := value }

def Moment.withKnown (m : Moment) (r : Read) (value : Except Error Cell) : Moment :=
  m.mapRows fun own _ => own.modify r.table (Row.withCell r.place value)

namespace Test

/-- The columns that are told by conditions, with the places of the conditions that tell them. The
last condition counts. -/
def told (conditions : List Test) : List (Nat × Read × Meaning) :=
  let found := conditions.zipIdx.filterMap fun (t, i) =>
    if t.home?.isSome then none else (t.meaning.toldBy?).map fun (r, e) => (i, r, e)
  found.reverse.foldl (fun kept (i, r, e) =>
    if kept.any fun (_, other, _) => other = r then kept else kept ++ [(i, r, e)]) []

/-- Conditions with what is known of columns put in their place. A condition that tells what a column
is stays as it is, and so do those that ask for rows. -/
def settle (tests : List Test) : List Test :=
  let conditions := tests.flatMap fun t => t.meaning.conjuncts.map fun e =>
    ({ t with meaning := e } : Test)
  let found := told conditions
  conditions.zipIdx.map fun (t, i) =>
    if t.home?.isSome ∨ t.meaning.hasQuery then t
    else
      let others := (found.filter fun (place, _, _) => place ≠ i).map Prod.snd
      let column? (r : Read) : Option Meaning :=
        (others.find? fun (other, _) => other = r).map Prod.snd
      let moment (m : Moment) : Moment :=
        others.foldl (fun known (r, e) => known.withKnown r (e.value m)) m
      { t with meaning := t.meaning.exchange ⟨moment, id, column?⟩ }

end Test

end Motif.Database
