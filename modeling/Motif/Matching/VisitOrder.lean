import Motif.Graph.Basic

/-!
The order in which the vertices of a pattern are mapped. The next vertex is the one with the
most visited neighbors, then the highest degree, then the lowest id; so a component is finished
before another is begun.
-/

set_option autoImplicit false

namespace Motif.Matching

/-- A visit order. Depths count the vertices mapped before; for each depth the order holds the
vertex, its degree, and which earlier depths hold its neighbors and which do not. -/
structure VisitOrder where
  order : Array Nat
  degrees : Array Nat
  earlierNeighbors : Array (List Nat)
  earlierStrangers : Array (List Nat)
deriving DecidableEq

namespace VisitOrder

def size (o : VisitOrder) : Nat := o.order.size

/-- A walk over a pattern: the vertices visited so far in order, and for every vertex how many
of its neighbors are visited. -/
structure Walk where
  visited : Array Bool
  links : Array Nat
  order : Array Nat

def Walk.start (g : Graph) : Walk :=
  ⟨Array.replicate g.vertexCount false, Array.replicate g.vertexCount 0, #[]⟩

/-- What decides between two vertices that could be visited next. -/
structure Standing where
  vertex : Nat
  links : Nat
  degree : Nat

/-- Whether a vertex is preferred to one of lower id. -/
def Standing.beats (a b : Standing) : Bool :=
  b.links < a.links || (a.links == b.links && b.degree < a.degree)

/-- The first of the standings that no other beats. -/
def best : List Standing → Option Standing
  | [] => none
  | a :: as => some (as.foldl (fun b c => if c.beats b then c else b) a)

namespace Walk

/-- The standings of the vertices not visited yet, by ascending id. -/
def standings (g : Graph) (w : Walk) : Except Error (List Standing) := do
  let unvisited ← keep (fun v => do return !(← read w.visited v)) g.vertices
  unvisited.mapM fun v => do return ⟨v, ← read w.links v, ← g.degree v⟩

def visit (g : Graph) (w : Walk) (v : Nat) : Except Error Walk := do
  let visited ← write w.visited v true
  let links ← (← g.row v).toList.foldlM (fun links n => update links n (· + 1)) w.links
  return ⟨visited, links, w.order.push v⟩

/-- Visits up to `steps` more vertices. -/
def run (g : Graph) : Nat → Walk → Except Error Walk
  | 0, w => .ok w
  | steps + 1, w => do
    match best (← w.standings g) with
    | none => return w
    | some s => run g steps (← w.visit g s.vertex)

end Walk

/-- The depths before `depth` that hold neighbors of `v`, and those that do not. -/
def split (g : Graph) (order : Array Nat) (depth v : Nat) :
    Except Error (List Nat × List Nat) := do
  let neighbors ← keep (fun j => do g.adjacent (← read order j) v) (List.range depth)
  return (neighbors, (List.range depth).filter (· ∉ neighbors))

def ofPattern (g : Graph) : Except Error VisitOrder := do
  let walk ← Walk.run g g.vertexCount (Walk.start g)
  let degrees ← walk.order.toList.mapM g.degree
  let splits ← walk.order.toList.zipIdx.mapM fun v => split g walk.order v.2 v.1
  return ⟨walk.order, degrees.toArray, (splits.map (·.1)).toArray, (splits.map (·.2)).toArray⟩

end VisitOrder

end Motif.Matching
