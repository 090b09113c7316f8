import Motif.Database.Direction
import Motif.Database.Flow

/-!
Queries that are made of themselves: rows lead to other rows, as long as there are new ones.
-/

set_option autoImplicit false

namespace Motif.Database

/-- How rows lead to others: whether they may come again, and in which order they are followed. -/
structure Recursion where
  mayRepeat : Bool
  columns : List Direction
  order : List (Nat × Direction)
  step : List Cell → Except Error (List (List Cell))

namespace Recursion

def fresh (r : Recursion) (seen : List (List Cell)) (rows : List (List Cell)) :
    List (List Cell) :=
  if r.mayRepeat then rows
  else
    rows.foldl (fun found row =>
      let isSame (other : List Cell) : Bool := Direction.compareAll r.columns other row == .eq
      if seen.any isSame ∨ found.any isSame then found else found ++ [row]) []

def enqueue (r : Recursion) (queue rows : List (List Cell)) : List (List Cell) :=
  if r.order.isEmpty then queue ++ rows
  else
    let key (row : List Cell) : List Cell := r.order.map fun o => row[o.1]?.getD .null
    rows.foldl (fun queue row =>
      let isBefore (other : List Cell) : Bool :=
        Direction.compareAll (r.order.map Prod.snd) (key other) (key row) != .gt
      queue.takeWhile isBefore ++ row :: queue.dropWhile isBefore) queue

def follow (r : Recursion) : Nat → (found seen queue : List (List Cell)) → Flow (List Cell)
  | 0, found, _, _ | _, found, _, [] => .ofList found.reverse
  | n + 1, found, seen, row :: queue =>
    let found := row :: found
    if n = 0 then .ofList found.reverse
    else
      match r.step row with
      | .error e => ⟨found.reverse, some e⟩
      | .ok rows =>
        let rows := r.fresh seen rows
        let seen := if r.mayRepeat then seen else rows ++ seen
        follow r n found seen (r.enqueue queue rows)

def mostSteps : Nat := 1000000

def rows (r : Recursion) (most? : Option Nat) (start : List (List Cell)) : Flow (List Cell) :=
  let start := r.fresh [] start
  follow r (min mostSteps (most?.getD mostSteps)) [] start (r.enqueue [] start)

end Recursion

end Motif.Database
