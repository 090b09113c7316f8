import Motif.Graph.Build

/-!
Renumbering the vertices of a graph by descending degree.
-/

set_option autoImplicit false

namespace Motif.Graph

/-- A vertex with its degree goes before one of smaller degree, and before a larger id of the same
degree. -/
def goesBefore (a b : Nat × Nat) : Bool :=
  b.1 < a.1 || (a.1 == b.1 && a.2 ≤ b.2)

/-- The vertices by descending degree, equal degrees by ascending id: the old ids in the order of
the new ones. -/
def byDegree (g : Graph) : Except Error (List Nat) := do
  let keyed ← g.vertices.mapM fun v => do return (← g.degree v, v)
  return (keyed.mergeSort goesBefore).map (·.2)

/-- The new id of every old one. -/
def positions (oldIds : List Nat) : Except Error (Array Nat) :=
  oldIds.zipIdx.foldlM (fun ids p => write ids p.1 p.2) (Array.replicate oldIds.length 0)

/-- A graph on new ids, with the old id of each. -/
structure Renumbered where
  graph : Graph
  oldIds : Array Nat

/-- Numbers the vertices by descending degree, equal degrees in their old order. -/
def renumberByDegree (g : Graph) : Except Error Renumbered := do
  let oldIds ← g.byDegree
  let newIds ← positions oldIds
  let degrees ← oldIds.mapM g.degree
  let offsets ← prefixSums degrees
  let rows ← oldIds.mapM fun old => do
    let renamed ← (← g.row old).toList.mapM (read newIds)
    return (renamed.mergeSort (fun x y => decide (x ≤ y))).toArray
  let graph ← ofParts g.edgeCount offsets rows.toArray.flatten degrees.toArray
  return ⟨graph, oldIds.toArray⟩

end Motif.Graph
