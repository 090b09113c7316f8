import Motif.Access
import Motif.Sorted

/-!
Undirected graphs in compressed rows. The neighbors of all vertices stand in one array, vertex
after vertex, and the offsets say where each row starts; the last offset is the length of the
array. A row is strictly ascending, misses its own vertex, and lists `w` under `v` exactly when
the row of `w` lists `v`.
-/

set_option autoImplicit false

namespace Motif

/-- An undirected edge as it is given from outside: two ids, in any order and of any sign. -/
abbrev Edge := Int × Int

structure Graph where
  edgeCount : Nat
  rowOffsets : Array Nat
  neighbors : Array Nat
  degrees : Array Nat
deriving DecidableEq

namespace Graph

/-- A graph of parts that fit: an offset more than there are degrees, and two neighbors for every
edge. -/
def ofParts (edgeCount : Nat) (rowOffsets neighbors degrees : Array Nat) : Except Error Graph :=
  if rowOffsets.size = degrees.size + 1 ∧ neighbors.size = 2 * edgeCount then
    .ok ⟨edgeCount, rowOffsets, neighbors, degrees⟩
  else .error (.fault (.partsDiffer edgeCount rowOffsets.size neighbors.size degrees.size))

theorem ofParts_eq_ok {edgeCount : Nat} {rowOffsets neighbors degrees : Array Nat} {g : Graph} :
    ofParts edgeCount rowOffsets neighbors degrees = .ok g ↔
      rowOffsets.size = degrees.size + 1 ∧ neighbors.size = 2 * edgeCount ∧
        g = ⟨edgeCount, rowOffsets, neighbors, degrees⟩ := by
  unfold ofParts
  split
  case isTrue h => simp only [Except.ok.injEq, h.1, h.2, true_and, eq_comm]
  case isFalse h => exact ⟨nofun, fun h' => absurd ⟨h'.1, h'.2.1⟩ h⟩

def vertexCount (g : Graph) : Nat := g.degrees.size

def isEmpty (g : Graph) : Bool := g.degrees.isEmpty

def vertices (g : Graph) : List Nat := List.range g.vertexCount

@[simp] theorem mem_vertices {g : Graph} {v : Nat} : v ∈ g.vertices ↔ v < g.vertexCount := by
  simp [vertices]

def maxDegree (g : Graph) : Nat := g.degrees.foldl max 0

def degree (g : Graph) (v : Nat) : Except Error Nat := read g.degrees v

/-- The neighbors of a vertex in ascending order. -/
def row (g : Graph) (v : Nat) : Except Error (Array Nat) := do
  let start ← read g.rowOffsets v
  let stop ← read g.rowOffsets (v + 1)
  slice g.neighbors start stop

theorem row_size_le {g : Graph} {v : Nat} {ns : Array Nat} (h : g.row v = .ok ns) :
    ns.size ≤ g.neighbors.size := by
  obtain ⟨start, _, h⟩ := bind_eq_ok.1 h
  obtain ⟨stop, _, h⟩ := bind_eq_ok.1 h
  obtain ⟨_, _, h⟩ := slice_eq_ok.1 h
  subst h
  simp only [Array.size_extract]
  omega

def adjacent (g : Graph) (u v : Nat) : Except Error Bool := do
  let ns ← g.row u
  return Sorted.contains ns v

/-- The neighbors of a vertex below the vertex itself. -/
def lowerRow (g : Graph) (v : Nat) : Except Error (Array Nat) := do
  let ns ← g.row v
  return ns.extract 0 (Sorted.partitionPoint ns (fun w => decide (w < v)))

/-- The vertex that an id names; an id below zero names none. -/
def vertexOf (g : Graph) (id : Int) : Except Error Nat :=
  match id with
  | .ofNat v => .ok v
  | .negSucc _ => .error (.fault (.outOfRange id g.vertexCount))

/-- The neighbors of the vertex with this id. -/
def neighborsOf (g : Graph) (id : Int) : Except Error (Array Nat) := do
  g.row (← g.vertexOf id)

def degreeOf (g : Graph) (id : Int) : Except Error Nat := do
  g.degree (← g.vertexOf id)

/-- Whether an edge joins two ids. The first has to name a vertex; no edge ends at an id that
names none. -/
def hasEdge (g : Graph) (u v : Int) : Except Error Bool := do
  let ns ← g.neighborsOf u
  match v with
  | .ofNat w => return Sorted.contains ns w
  | .negSucc _ => return false

/-- The neighbor lists of all vertices, as ids. -/
def adjacency (g : Graph) : Except Error (List (List Int)) :=
  g.vertices.mapM fun u => do
    let ns ← g.row u
    return ns.toList.map Int.ofNat

/-- Every edge once, the smaller id first, in lexicographic order. -/
def edges (g : Graph) : Except Error (List Edge) := do
  let lists ← g.vertices.mapM fun u => do
    let ns ← g.row u
    return (ns.toList.filter (u < ·)).map fun v => (Int.ofNat u, Int.ofNat v)
  return lists.flatten

end Graph

end Motif
