import Motif.Proofs.Rows
import Motif.Proofs.Sorted

/-!
# Well-formed graphs

The invariant of the compressed rows, and what the operations of a graph answer under it. A graph
is read through the neighbor lists of its vertices; under the invariant every access of a vertex
succeeds, and the answers are those of the lists.
-/

set_option autoImplicit false

namespace Motif.Graph

open Sorted

theorem isEmpty_iff {g : Graph} : g.isEmpty = true ↔ g.vertexCount = 0 := by
  simp [isEmpty, vertexCount]

theorem not_isEmpty_iff {g : Graph} : ¬ g.isEmpty = true ↔ 0 < g.vertexCount := by
  rw [isEmpty_iff, Nat.pos_iff_ne_zero]

/-- The neighbors of a vertex; a number that is no vertex has none. -/
def neighborList (g : Graph) (v : Nat) : List Nat :=
  match g.row v with
  | .ok ns => ns.toList
  | .error _ => []

/-- Adjacency, as the rows tell it. -/
def Adj (g : Graph) (u v : Nat) : Prop := v ∈ g.neighborList u

instance (g : Graph) (u v : Nat) : Decidable (g.Adj u v) :=
  inferInstanceAs (Decidable (v ∈ g.neighborList u))

structure WellFormed (g : Graph) : Prop where
  offsets : g.rowOffsets = (sums g.degrees.toList).toArray
  length : g.neighbors.size = g.degrees.toList.sum
  halves : g.neighbors.size = 2 * g.edgeCount
  ascending : ∀ v < g.vertexCount, Ascending (g.neighborList v)
  loopless : ∀ v, ¬ g.Adj v v
  symmetric : ∀ u v, g.Adj u v → g.Adj v u
  vertexIds : g.vertexCount ≤ largestId.toNat
  fits : g.neighbors.size < sizeLimit

/-- The graph whose rows are the given lists. -/
def ofLists (edgeCount : Nat) (rows : List (List Nat)) : Graph :=
  ⟨edgeCount, (sums (rows.map List.length)).toArray, rows.flatten.toArray,
    (rows.map List.length).toArray⟩

@[simp] theorem vertexCount_ofLists (edgeCount : Nat) (rows : List (List Nat)) :
    (ofLists edgeCount rows).vertexCount = rows.length := by
  simp [ofLists, vertexCount]

theorem row_ofLists (edgeCount : Nat) (rows : List (List Nat)) {v : Nat} (h : v < rows.length) :
    (ofLists edgeCount rows).row v = .ok rows[v].toArray := by
  have start : read (ofLists edgeCount rows).rowOffsets v =
      .ok ((rows.map List.length).take v).sum :=
    read_eq_ok.mpr (by simp [ofLists, sums, Nat.lt_succ_of_lt h])
  have stop : read (ofLists edgeCount rows).rowOffsets (v + 1) =
      .ok (((rows.map List.length).take v).sum + rows[v].length) := by
    refine read_eq_ok.mpr ?_
    rw [ofLists, List.getElem?_toArray, List.getElem?_eq_getElem (by simpa using h), getElem_sums,
      sum_take_succ _ (by simpa using h), List.getElem_map]
  have whole := slice_flatten rows h (Nat.le_refl _)
  rw [List.take_length] at whole
  rw [row, start, ok_bind, stop, ok_bind]
  exact whole

theorem neighborList_of_ge {g : Graph} {v : Nat} (h : g.rowOffsets.size ≤ v + 1) :
    g.neighborList v = [] := by
  have stop : read g.rowOffsets (v + 1) = .error (.fault (.outOfRange (v + 1) g.rowOffsets.size)) := by
    simp [read, h]
  unfold neighborList row
  cases read g.rowOffsets v with
  | error e => rfl
  | ok start => rw [ok_bind, stop]; rfl

theorem neighborList_ofLists (edgeCount : Nat) (rows : List (List Nat)) (v : Nat) :
    (ofLists edgeCount rows).neighborList v = rows[v]?.getD [] := by
  by_cases h : v < rows.length
  · simp [neighborList, row_ofLists edgeCount rows h, h]
  · rw [neighborList_of_ge (by simp [ofLists]; omega), List.getElem?_eq_none (by omega)]
    rfl

/-- Rows that are ascending, without loops and symmetric make a well-formed graph, if its parts
are of the sizes that are promised. -/
theorem wellFormed_ofLists {edgeCount : Nat} {rows : List (List Nat)}
    (halves : (rows.map List.length).sum = 2 * edgeCount)
    (ascending : ∀ ns ∈ rows, Ascending ns)
    (loopless : ∀ v, ¬ (ofLists edgeCount rows).Adj v v)
    (symmetric : ∀ u v, (ofLists edgeCount rows).Adj u v → (ofLists edgeCount rows).Adj v u)
    (vertexIds : rows.length ≤ largestId.toNat)
    (fits : (rows.map List.length).sum < sizeLimit) : (ofLists edgeCount rows).WellFormed where
  offsets := by simp [ofLists]
  length := by simp [ofLists, List.length_flatten]
  halves := by simp [ofLists, List.length_flatten, halves]
  ascending v hv := by
    rw [vertexCount_ofLists] at hv
    rw [neighborList_ofLists, List.getElem?_eq_getElem hv]
    exact ascending _ (List.getElem_mem hv)
  loopless := loopless
  symmetric := symmetric
  vertexIds := by simpa using vertexIds
  fits := by simpa [ofLists, List.length_flatten] using fits

namespace WellFormed

variable {g : Graph} (wf : g.WellFormed)
include wf

/-- A well-formed graph is its neighbor lists. -/
theorem eq_ofLists : g = ofLists g.edgeCount (g.vertices.map g.neighborList) := by
  obtain ⟨rows, hlengths, hflat⟩ := exists_rows g.degrees.toList g.neighbors.toList
    (by simpa using wf.length)
  have packed : g = ofLists g.edgeCount rows := by
    have h := wf.offsets
    cases g
    simp_all [ofLists]
  have same : g.vertices.map g.neighborList = rows := by
    have count : g.vertexCount = rows.length := by
      rw [← List.length_map List.length, hlengths, Array.length_toList, vertexCount]
    apply List.ext_getElem
    · rw [List.length_map, vertices, List.length_range, count]
    · intro v hv hv'
      have entry : (g.vertices.map g.neighborList)[v] = g.neighborList v := by simp [vertices]
      rw [entry]
      conv_lhs => rw [packed, neighborList_ofLists, List.getElem?_eq_getElem hv']
      rfl
  rw [same]
  exact packed

theorem row_eq {v : Nat} (hv : v < g.vertexCount) : g.row v = .ok (g.neighborList v).toArray := by
  have hv' : v < (g.vertices.map g.neighborList).length := by simpa [vertices] using hv
  conv_lhs => rw [wf.eq_ofLists, row_ofLists _ _ hv', List.getElem_map]
  simp [vertices]

theorem size_rowOffsets : g.rowOffsets.size = g.vertexCount + 1 := by
  rw [wf.offsets, List.size_toArray, length_sums, Array.length_toList, vertexCount]

theorem degrees_eq : g.degrees.toList = g.vertices.map fun v => (g.neighborList v).length := by
  conv_lhs => rw [wf.eq_ofLists]
  simp [ofLists, Function.comp_def]

theorem degrees_getElem? {v : Nat} (hv : v < g.vertexCount) :
    g.degrees[v]? = some (g.neighborList v).length := by
  have inside : v < g.vertices.length := by simpa [vertices] using hv
  rw [← Array.getElem?_toList, wf.degrees_eq, List.getElem?_map, List.getElem?_eq_getElem inside]
  simp [vertices]

theorem degree_eq {v : Nat} (hv : v < g.vertexCount) :
    g.degree v = .ok (g.neighborList v).length :=
  read_eq_ok.mpr (wf.degrees_getElem? hv)

theorem rowOffsets_getElem? {v : Nat} (hv : v ≤ g.vertexCount) :
    g.rowOffsets[v]? = some (g.degrees.toList.take v).sum := by
  have inside : v < (sums g.degrees.toList).length := by
    rw [length_sums]
    exact Nat.lt_succ_of_le hv
  rw [wf.offsets, List.getElem?_toArray, List.getElem?_eq_getElem inside, getElem_sums]

theorem rowOffsets_succ {v : Nat} (hv : v < g.vertexCount) :
    g.rowOffsets[v + 1]? = some ((g.degrees.toList.take v).sum + (g.neighborList v).length) := by
  have inside : v < g.degrees.toList.length := hv
  have entry := wf.degrees_getElem? hv
  rw [← Array.getElem?_toList, List.getElem?_eq_getElem inside, Option.some.injEq] at entry
  rw [wf.rowOffsets_getElem? hv, sum_take_succ _ inside, entry]

theorem rowOffsets_last : g.rowOffsets[g.vertexCount]? = some g.neighbors.size := by
  have whole : g.degrees.toList.take g.vertexCount = g.degrees.toList :=
    List.take_of_length_le (Nat.le_refl _)
  rw [wf.rowOffsets_getElem? (Nat.le_refl _), whole, wf.length]

theorem lt_of_adj {u v : Nat} (h : g.Adj u v) : u < g.vertexCount := by
  by_contra hge
  rw [Adj, neighborList_of_ge (by rw [wf.size_rowOffsets]; omega)] at h
  cases h

theorem lt_of_adj' {u v : Nat} (h : g.Adj u v) : v < g.vertexCount :=
  wf.lt_of_adj (wf.symmetric u v h)

theorem ne_of_adj {u v : Nat} (h : g.Adj u v) : u ≠ v := by
  rintro rfl
  exact wf.loopless u h

theorem ascending' (v : Nat) : Ascending (g.neighborList v) := by
  by_cases hv : v < g.vertexCount
  · exact wf.ascending v hv
  · rw [neighborList_of_ge (by rw [wf.size_rowOffsets]; omega)]
    exact List.Pairwise.nil

theorem adjacent_eq {u : Nat} (hu : u < g.vertexCount) (v : Nat) :
    g.adjacent u v = .ok (decide (g.Adj u v)) := by
  rw [adjacent, wf.row_eq hu, ok_bind, pure_eq_ok]
  congr 1
  rw [Bool.eq_iff_iff, decide_eq_true_iff]
  exact contains_iff (wf.ascending u hu) v

theorem lowerRow_eq {v : Nat} (hv : v < g.vertexCount) :
    g.lowerRow v = .ok ((g.neighborList v).filter (· < v)).toArray := by
  have front := front_of_ascending (wf.ascending v hv) v
  rw [lowerRow, wf.row_eq hv, ok_bind, pure_eq_ok, List.extract_toArray,
    List.extract_eq_take_drop, List.drop_zero, Nat.sub_zero]
  congr 2
  exact take_partitionPoint front

theorem neighborsOf_eq {v : Nat} (hv : v < g.vertexCount) :
    g.neighborsOf v = .ok (g.neighborList v).toArray := by
  change (do g.row (← Except.ok v)) = _
  rw [ok_bind, wf.row_eq hv]

theorem hasEdge_eq {u : Nat} (hu : u < g.vertexCount) (w : Int) :
    g.hasEdge u w = .ok (decide (w ∈ (g.neighborList u).map Int.ofNat)) := by
  rw [hasEdge, wf.neighborsOf_eq hu, ok_bind]
  cases w with
  | ofNat v =>
    change Except.ok _ = _
    congr 1
    rw [Bool.eq_iff_iff, decide_eq_true_iff, List.mem_map_of_injective Int.ofNat_injective]
    exact contains_iff (wf.ascending u hu) v
  | negSucc k =>
    change Except.ok _ = _
    congr 1
    simp

theorem hasEdge_eq_adj {u : Nat} (hu : u < g.vertexCount) (v : Nat) :
    g.hasEdge u v = .ok (decide (g.Adj u v)) := by
  rw [wf.hasEdge_eq hu, Except.ok.injEq, decide_eq_decide]
  exact List.mem_map_of_injective Int.ofNat_injective

theorem hasEdge_eq_true_iff (a b : Nat) : g.hasEdge a b = .ok true ↔ g.Adj a b := by
  constructor
  · intro joined
    -- a row that was read is the neighbor list, so nothing is needed to bound the vertex
    obtain ⟨ns, found, joined⟩ := bind_eq_ok.mp joined
    have list : g.neighborList a = ns.toList := by
      change (do g.row (← Except.ok a)) = _ at found
      rw [ok_bind] at found
      rw [neighborList, found]
    have ascending := wf.ascending' a
    rw [list] at ascending
    have joined : Except.ok (contains ns b) = (Except.ok true : Except Error Bool) := joined
    rw [Adj, list, ← contains_iff ascending]
    exact Except.ok.inj joined
  · intro adj
    rw [wf.hasEdge_eq_adj (wf.lt_of_adj adj), decide_eq_true adj]

theorem degreeOf_eq {v : Nat} (hv : v < g.vertexCount) :
    g.degreeOf v = .ok (g.neighborList v).length := by
  change (do g.degree (← Except.ok v)) = _
  rw [ok_bind, wf.degree_eq hv]

end WellFormed

end Motif.Graph
