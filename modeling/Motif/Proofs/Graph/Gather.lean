import Motif.Proofs.Graph.Tidy
import Motif.Proofs.Graph.WellFormed

/-!
# From scattered rows to a graph

Tidying keeps every row in its place, so the wide offsets still locate it; the narrow ones come
from what the rows keep. Gathering the fronts of the rows gives the graph of the tidy lists.
-/

set_option autoImplicit false

namespace Motif.Graph

open Sorted

/-- The distinct other vertices of a row, in order. -/
def tidyList (v : Nat) (ns : List Nat) : List Nat :=
  kept (tidyRow v ns.toArray).1 (tidyRow v ns.toArray).2

theorem ascending_tidyList (v : Nat) (ns : List Nat) : Ascending (tidyList v ns) :=
  (tidyRow_spec v ns.toArray).2.2.1

theorem mem_tidyList {v w : Nat} {ns : List Nat} : w ∈ tidyList v ns ↔ w ∈ ns ∧ w ≠ v :=
  (tidyRow_spec v ns.toArray).2.2.2 w

/-- Tidying undoes any rearrangement. -/
theorem tidyList_perm (v : Nat) {ns ms : List Nat} (same : ns.Perm ms) :
    tidyList v ns = tidyList v ms := by
  apply List.Pairwise.eq_of_mem_iff (ascending_tidyList v ns) (ascending_tidyList v ms)
  intro w
  rw [mem_tidyList, mem_tidyList, same.mem_iff]

theorem length_tidyList (v : Nat) (ns : List Nat) :
    (tidyList v ns).length = (tidyRow v ns.toArray).2 := by
  obtain ⟨size, hlen, -⟩ := tidyRow_spec v ns.toArray
  rw [tidyList, kept, List.length_take, Array.length_toList, size]
  omega

theorem length_tidyList_le (v : Nat) (ns : List Nat) : (tidyList v ns).length ≤ ns.length := by
  rw [length_tidyList]
  exact (tidyRow_spec v ns.toArray).2.1

/-- Each row tidied for its own vertex. -/
def tidyLists (rows : List (List Nat)) : List (List Nat) := rows.mapIdx tidyList

@[simp] theorem length_tidyLists (rows : List (List Nat)) :
    (tidyLists rows).length = rows.length := by
  simp [tidyLists]

@[simp] theorem getElem_tidyLists {rows : List (List Nat)} {v : Nat} (h : v < rows.length)
    (inside : v < (tidyLists rows).length) : (tidyLists rows)[v] = tidyList v rows[v] := by
  simp [tidyLists]

theorem sum_tidyLists_le (rows : List (List Nat)) :
    ((tidyLists rows).map List.length).sum ≤ (rows.map List.length).sum := by
  apply List.Forall₂.sum_le_sum
  rw [List.forall₂_iff_get]
  refine ⟨by simp, fun v _ hv => ?_⟩
  have hv : v < rows.length := by simpa using hv
  simpa [hv] using length_tidyList_le v rows[v]

/-- The rows after tidying, with what they keep in front. -/
def tidiedRows (rows : List (List Nat)) : List (List Nat) :=
  rows.mapIdx fun v ns => (tidyRow v ns.toArray).1.toList

theorem map_length_tidiedRows (rows : List (List Nat)) :
    (tidiedRows rows).map List.length = rows.map List.length := by
  apply List.ext_getElem
  · simp [tidiedRows]
  · intro v _ _
    simp [tidiedRows, (tidyRow_spec v _).1]

theorem tidyRows_eq (rows : List (List Nat)) :
    tidyRows rows.flatten.toArray (sums (rows.map List.length)).toArray =
      .ok ((tidiedRows rows).flatten.toArray, (tidyLists rows).map List.length) := by
  rw [tidyRows, cutRows_flatten, ok_bind, pure_eq_ok]
  have fronts : ((rows.map List.toArray).zipIdx.map fun r => tidyRow r.2 r.1) =
      rows.mapIdx fun v ns => tidyRow v ns.toArray := by
    rw [List.zipIdx_map, List.map_map, List.mapIdx_eq_zipIdx_map]
    rfl
  simp only [fronts]
  congr 2
  · apply Array.toList_inj.mp
    rw [Array.toList_flatten]
    congr 1
    apply List.ext_getElem <;> simp [tidiedRows]
  · apply List.ext_getElem
    · simp
    · intro v hv hv'
      have hv : v < rows.length := by simpa using hv
      simp [hv, length_tidyList]

/-- The front of a tidied row is what the row keeps. -/
theorem slice_tidiedRows (rows : List (List Nat)) {v : Nat} (h : v < rows.length) :
    slice (tidiedRows rows).flatten.toArray ((rows.map List.length).take v).sum
        (((rows.map List.length).take v).sum + (tidyList v rows[v]).length) =
      .ok (tidyList v rows[v]).toArray := by
  have inside : v < (tidiedRows rows).length := by simpa [tidiedRows] using h
  have entry : (tidiedRows rows)[v] = (tidyRow v rows[v].toArray).1.toList := by
    simp [tidiedRows]
  have room : (tidyList v rows[v]).length ≤ (tidiedRows rows)[v].length := by
    rw [entry, length_tidyList, Array.length_toList, (tidyRow_spec v rows[v].toArray).1]
    exact (tidyRow_spec v rows[v].toArray).2.1
  have front := slice_flatten (tidiedRows rows) inside room
  rw [map_length_tidiedRows, entry, length_tidyList] at front
  rw [length_tidyList]
  exact front

theorem gatherRows_eq (rows : List (List Nat)) :
    gatherRows (tidiedRows rows).flatten.toArray (sums (rows.map List.length)).toArray
        (sums ((tidyLists rows).map List.length)).toArray =
      .ok (tidyLists rows).flatten.toArray := by
  have numbered : (bounds (sums ((tidyLists rows).map List.length)).toArray).zipIdx =
      (List.range rows.length).map fun v =>
        ((((tidyLists rows).map List.length).take v |>.sum,
          ((tidyLists rows).map List.length).take (v + 1) |>.sum), v) := by
    rw [bounds_sums]
    apply List.ext_getElem <;> simp
  have fronts : ∀ v ∈ List.range rows.length, (do
      let start ← read (sums (rows.map List.length)).toArray v
      slice (tidiedRows rows).flatten.toArray start
        (start + ((((tidyLists rows).map List.length).take (v + 1)).sum -
          (((tidyLists rows).map List.length).take v).sum))) =
      .ok (((tidyLists rows)[v]?.getD []).toArray) := by
    intro v hv
    have hv : v < rows.length := List.mem_range.mp hv
    have start : read (sums (rows.map List.length)).toArray v =
        .ok ((rows.map List.length).take v).sum := by
      refine read_eq_ok.mpr ?_
      rw [List.getElem?_toArray, List.getElem?_eq_getElem (by simp; omega), getElem_sums]
    rw [sum_take_succ _ (by simpa using hv), Nat.add_sub_cancel_left, start, ok_bind,
      List.getElem_map, getElem_tidyLists hv, slice_tidiedRows rows hv]
    simp [hv]
  have run := mapM_eq_map fronts
  rw [gatherRows, numbered, List.mapM_map]
  simp only [Function.comp_def, run, ok_bind, pure_eq_ok]
  congr 1
  apply Array.toList_inj.mp
  rw [Array.toList_flatten]
  congr 1
  apply List.ext_getElem
  · simp
  · intro v hv hv'
    simp at hv hv'
    simp [hv]

/-- What is left of the rows makes the graph, if it is a number of neighbors that edges have. -/
theorem ofRows_eq (rows : List (List Nat)) {edgeCount : Nat} (few : rows.length + 1 < sizeLimit)
    (fits : (rows.map List.length).sum < sizeLimit)
    (halves : ((tidyLists rows).map List.length).sum = 2 * edgeCount) :
    ofRows rows.flatten.toArray (sums (rows.map List.length)).toArray =
      .ok (ofLists edgeCount (tidyLists rows)) := by
  have narrow : prefixSums ((tidyLists rows).map List.length) =
      .ok (sums ((tidyLists rows).map List.length)).toArray :=
    prefixSums_eq_ok_iff.mpr
      ⟨by simpa using few, Nat.lt_of_le_of_lt (sum_tidyLists_le rows) fits, rfl⟩
  have size : (tidyLists rows).flatten.toArray.size = 2 * edgeCount := by
    rw [List.size_toArray, List.length_flatten, halves]
  rw [ofRows, tidyRows_eq, ok_bind]
  simp only [narrow, ok_bind, gatherRows_eq]
  refine ofParts_eq_ok.mpr ⟨by simp, by omega, ?_⟩
  rw [ofLists, size, Nat.mul_div_cancel_left _ (by decide)]

end Motif.Graph
