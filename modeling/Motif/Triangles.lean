import Motif.Graph.Renumber
import Motif.Intersection.Strategy

/-!
Counting triangles, sets of three mutually adjacent vertices. Each is found once, as
`u > v > w`: rows are ascending, so the scans of the rows of `u` and `v` stop at the vertex
itself.

Graphs with many edges for their vertices are counted by intersecting whole rows, after
renumbering if that is asked for; the others by one forward scan of a row for each of its lower
neighbors.
-/

set_option autoImplicit false

namespace Motif.Triangles

/-- One count for the whole graph, or one for each vertex. -/
inductive Task where
  | total
  | perVertex
deriving DecidableEq

/-- A graph is dense from `threshold` edges for each vertex on; dense graphs are renumbered by
degree before they are counted if `renumber` says so. -/
structure Options where
  task : Task := .total
  renumber : Bool := true
  threshold : Nat := 4
deriving DecidableEq

inductive Ranking where
  | total (count : Nat)
  | perVertex (counts : Array Nat)
deriving DecidableEq

def Ranking.total? : Ranking → Option Nat
  | .total count => some count
  | .perVertex _ => none

def Ranking.perVertex? : Ranking → Option (Array Nat)
  | .total _ => none
  | .perVertex counts => some counts

/-- Counts the elements that two strictly ascending arrays share. -/
abbrev Intersector := Array Nat → Array Nat → Except Error Nat

/-- The first position from `p` on that holds no element below `w`. -/
def advance (row : Array Nat) (w p : Nat) : Nat :=
  if h : p < row.size then
    if row[p] < w then advance row w (p + 1) else p
  else p
termination_by row.size - p

/-- Counts the elements of an ascending list that a row holds, with a cursor that only moves
forward. -/
def scan (row : Array Nat) (p : Nat) : List Nat → Nat
  | [] => 0
  | w :: ws =>
    let q := advance row w p
    (if row[q]? = some w then 1 else 0) + scan row q ws

def sum (counts : List Nat) : Nat := counts.foldl (· + ·) 0

/-- The sum of counts, if it is a count. This is what a build with overflow checks gives; without them the
sum would wrap, but only for as many triangles as there are numbers of 64 bits. -/
def total (counts : List Nat) : Except Error Nat := Overflow.checked.size (sum counts)

/-- Scans the row of `u` once for each of its lower neighbors. -/
def countByScanning (g : Graph) : Except Error Nat := do
  let counts ← g.vertices.mapM fun u => do
    let row ← g.row u
    let found ← (row.toList.takeWhile (· < u)).mapM fun v => do
      let other ← g.row v
      return scan row 0 (other.toList.takeWhile (· < v))
    total found
  total counts

/-- The pairs of arrays that are intersected on a dense graph: the row of `u` with the part of
the row of `v` below `v`, for every `v < u`. A vertex of degree one is in no triangle. -/
def queries (g : Graph) : Except Error (List (Array Nat × Array Nat)) := do
  let lists ← g.vertices.mapM fun u => do
    if (← g.degree u) < 2 then return []
    else
      let row ← g.row u
      (row.toList.takeWhile (· < u)).mapM fun v => do return (row, ← g.lowerRow v)
  return lists.flatten

def countByIntersecting (g : Graph) (intersect : Intersector) : Except Error Nat := do
  total (← (← queries g).mapM fun q => intersect q.1 q.2)

/-- Every triangle once, its vertices in descending order. -/
def triples (g : Graph) : Except Error (List (Nat × Nat × Nat)) := do
  let lists ← g.vertices.mapM fun u => do
    let row ← g.row u
    let found ← (row.toList.takeWhile (· < u)).mapM fun v => do
      let lower ← g.lowerRow v
      return (Sorted.common row.toList lower.toList).map fun w => (u, v, w)
    return found.flatten
  return lists.flatten

/-- Adds a triangle to the counts of its three vertices. -/
def credit (counts : Array Nat) (t : Nat × Nat × Nat) : Except Error (Array Nat) := do
  let counts ← update counts t.1 (· + 1)
  let counts ← update counts t.2.1 (· + 1)
  update counts t.2.2 (· + 1)

def countPerVertex (g : Graph) : Except Error (Array Nat) := do
  (← triples g).foldlM credit (Array.replicate g.vertexCount 0)

/-- Moves counts by new ids back to the old ids. -/
def restore (oldIds counts : Array Nat) : Except Error (Array Nat) :=
  (oldIds.toList.zip counts.toList).foldlM (fun ranks p => write ranks p.1 p.2)
    (Array.replicate counts.size 0)

/-- The edges for each vertex, which a graph without vertices has not. -/
def averageDegree (g : Graph) : Except Error Nat := divide g.edgeCount g.vertexCount

/-- How a graph is counted: as a dense one or not, and on which graph, with the old ids if that
is renumbered. -/
structure Plan where
  dense : Bool
  graph : Graph
  oldIds? : Option (Array Nat)

/-- Dense graphs are renumbered if the options say so. A graph that cannot be renumbered is
counted as it is. -/
def Options.plan (options : Options) (g : Graph) : Except Error Plan := do
  let dense := decide (options.threshold ≤ (← averageDegree g))
  if dense && options.renumber then
    match g.renumberByDegree with
    | .ok r => .ok ⟨dense, r.graph, some r.oldIds⟩
    | .error (.fault cause) => .error (.fault cause)
    | .error _ => .ok ⟨dense, g, none⟩
  else .ok ⟨dense, g, none⟩

/-- Counts with the given intersector, which only dense graphs use, and only for a total. -/
def rankWith (options : Options) (g : Graph) (intersect : Intersector) :
    Except Error Ranking :=
  if g.isEmpty then
    match options.task with
    | .total => .ok (.total 0)
    | .perVertex => .ok (.perVertex #[])
  else do
    let plan ← options.plan g
    match options.task with
    | .total =>
      let count ←
        if plan.dense then countByIntersecting plan.graph intersect
        else countByScanning plan.graph
      return .total count
    | .perVertex =>
      let counts ← countPerVertex plan.graph
      match plan.oldIds? with
      | some oldIds => return .perVertex (← restore oldIds counts)
      | none => return .perVertex counts

/-- The pairs of arrays that `rankWith` hands to its intersector. -/
def calls (options : Options) (g : Graph) : Except Error (List (Array Nat × Array Nat)) :=
  if g.isEmpty then .ok []
  else do
    let plan ← options.plan g
    if options.task = .total ∧ plan.dense then queries plan.graph else .ok []

/-- Counts with the widest lanes the processor has. -/
def rank (p : Intersection.Processor) (options : Options) (g : Graph) : Except Error Ranking :=
  rankWith options g (Intersection.Strategy.detect p).size

end Motif.Triangles
