import Motif.Graph.Basic

/-!
Building a graph from edges in four passes: count the endpoints at every vertex, scatter the
other endpoints into slots of their vertex, sort every row and drop loops and repetitions from
it, and copy what is left into the final rows. Rows are located by prefix sums, once before and
once after the third pass.
-/

set_option autoImplicit false

namespace Motif.Graph

variable {α : Type}

/-- One more than the largest id. A negative id anywhere is reported before an id that is too
large. -/
def vertexBound (edges : List Edge) : Except Error Nat :=
  if edges.any fun e => decide (e.1 < 0) || decide (e.2 < 0) then .error .negativeId
  else if edges.any fun e => decide (largestId ≤ e.1) || decide (largestId ≤ e.2) then
    .error .idTooLarge
  else .ok (edges.foldl (fun n e => max n ((max e.1 e.2).toNat + 1)) 0)

/-- One side of an edge: a vertex, and the vertex at the other end. -/
structure Endpoint where
  vertex : Nat
  other : Nat
deriving DecidableEq

/-- Both sides of every edge. -/
def endpoints (edges : List Edge) : List Endpoint :=
  edges.flatMap fun e => [⟨e.1.toNat, e.2.toNat⟩, ⟨e.2.toNat, e.1.toNat⟩]

@[simp] theorem endpoints_length (edges : List Edge) :
    (endpoints edges).length = 2 * edges.length := by
  induction edges with
  | nil => rfl
  | cons e edges ih =>
    simp only [endpoints, List.flatMap_cons, List.length_append, List.length_cons,
      List.length_nil] at ih ⊢
    omega

def countEndpoints (vertexCount : Nat) (ends : List Endpoint) : Except Error (Array Nat) :=
  ends.foldlM (fun counts e => update counts e.vertex (· + 1)) (Array.replicate vertexCount 0)

def checkedAdd (m n : Nat) : Except Error Nat :=
  if m + n < sizeLimit then .ok (m + n) else .error .sumOverflow

/-- The sums of the first `0`, `1`, .. and all counts. -/
def prefixSums (counts : List Nat) : Except Error (Array Nat) := do
  let _ ← checkedAdd counts.length 1
  let sums ← counts.foldlM
    (fun (sums : Array Nat × Nat) count => do
      let total ← checkedAdd sums.2 count
      return (sums.1.push total, total))
    (#[0], 0)
  return sums.1

/-- Slots in rows, with the next free slot of every row. -/
structure Slots where
  cursors : Array Nat
  slots : Array Nat

/-- All rows empty, row `v` starting at the offset of `v`. -/
def Slots.empty (offsets : Array Nat) : Except Error Slots := do
  let size ← read offsets (offsets.size - 1)
  return ⟨offsets.pop, Array.replicate size 0⟩

/-- Puts an endpoint into the next free slot of its vertex. -/
def Slots.claim (s : Slots) (e : Endpoint) : Except Error Slots := do
  let slot ← read s.cursors e.vertex
  let slots ← write s.slots slot e.other
  let cursors ← write s.cursors e.vertex (slot + 1)
  return ⟨cursors, slots⟩

def scatter (offsets : Array Nat) (ends : List Endpoint) : Except Error (Array Nat) := do
  let filled ← ends.foldlM Slots.claim (← Slots.empty offsets)
  return filled.slots

/-- The bounds of consecutive rows. -/
def bounds (offsets : Array Nat) : List (Nat × Nat) :=
  offsets.toList.zip offsets.toList.tail

/-- Cuts an array into the rows that the offsets bound. -/
def cutRows (xs : Array α) (offsets : Array Nat) : Except Error (List (Array α)) :=
  (bounds offsets).mapM fun b => slice xs b.1 b.2

section Tidy

variable [DecidableEq α]

/-- Moves the elements of a sorted row that are to stay to its front: reading at `i`, with `len`
kept so far. A loop is dropped, and so is an element equal to the one kept last. -/
def tidyFrom (loop : α) (xs : Array α) (i len : Nat) (h : len ≤ i) : Array α × Nat :=
  if hi : i < xs.size then
    if xs[i] ≠ loop ∧ (len = 0 ∨ xs[len - 1]? ≠ some xs[i]) then
      tidyFrom loop (xs.set len xs[i]) (i + 1) (len + 1) (by omega)
    else tidyFrom loop xs (i + 1) len (by omega)
  else (xs, len)
termination_by xs.size - i

variable [LE α] [DecidableLE α]

/-- Sorts a row and moves its distinct elements other than `loop` to the front; also says how
many they are. -/
def tidyRow (loop : α) (xs : Array α) : Array α × Nat :=
  tidyFrom loop (xs.toList.mergeSort (fun x y => decide (x ≤ y))).toArray 0 0 (Nat.le_refl _)

end Tidy

/-- Tidies every row in its place. -/
def tidyRows (xs : Array Nat) (offsets : Array Nat) :
    Except Error (Array Nat × List Nat) := do
  let rows ← cutRows xs offsets
  let tidied := rows.zipIdx.map fun r => tidyRow r.2 r.1
  return ((tidied.map (·.1)).toArray.flatten, tidied.map (·.2))

/-- Copies the front of every row, as much as the narrow offsets leave room for. -/
def gatherRows (xs : Array Nat) (wide narrow : Array Nat) : Except Error (Array Nat) := do
  let rows ← (bounds narrow).zipIdx.mapM fun b => do
    let start ← read wide b.2
    slice xs start (start + (b.1.2 - b.1.1))
  return rows.toArray.flatten

/-- The graph whose rows are those bounded by the offsets, once they are tidied. -/
def ofRows (scattered wide : Array Nat) : Except Error Graph := do
  let (tidied, degrees) ← tidyRows scattered wide
  let offsets ← prefixSums degrees
  let neighbors ← gatherRows tidied wide offsets
  ofParts (neighbors.size / 2) offsets neighbors degrees.toArray

/-- The graph on at least `minimum` vertices whose edges are the given pairs. -/
def build (edges : List Edge) (minimum : Nat) : Except Error Graph := do
  let vertexCount := max (← vertexBound edges) minimum
  let ends := endpoints edges
  let wide ← prefixSums (← countEndpoints vertexCount ends).toList
  ofRows (← scatter wide ends) wide

/-- The graph with the given edges on the ids up to the largest one. -/
def ofEdges (edges : List Edge) : Except Error Graph :=
  if edges.isEmpty then .error .emptyEdgeList else build edges 0

/-- The pairs that adjacency lists stand for. -/
def listedEdges (lists : List (List Int)) : List Edge :=
  lists.zipIdx.flatMap fun l => l.1.map fun n => (Int.ofNat l.2, n)

/-- The graph with an edge from `u` to every entry of list `u`. Every list has its vertex, and
an edge need only be listed on one side. -/
def ofAdjacency (lists : List (List Int)) : Except Error Graph :=
  if largestId < lists.length then .error .tooManyLists
  else build (listedEdges lists) lists.length

/-- The graph of the edges of `g` and more. Vertices that only their number tells of are lost. -/
def extend (g : Graph) (more : List Edge) : Except Error Graph := do
  ofEdges ((← g.edges) ++ more)

/-- The graph of the neighbor lists of `g` and more; the lists that are added get vertices of
their own, behind those of `g`. -/
def extendLists (g : Graph) (more : List (List Int)) : Except Error Graph := do
  ofAdjacency ((← g.adjacency) ++ more)

end Motif.Graph
