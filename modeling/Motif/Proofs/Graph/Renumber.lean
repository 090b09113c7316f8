import Motif.Graph.Renumber
import Motif.Proofs.Graph.WellFormed

/-!
# Renumbering is an isomorphism

The old ids in their new order are a permutation, and the new ids are its inverse. A renumbered
row lists the new ids of the old neighbors, in order, so the graph stays well-formed and two new
ids are adjacent exactly when their old ids are.
-/

set_option autoImplicit false

namespace Motif.Graph

open Sorted

/-- The order in which vertices are renumbered. -/
def Precedes (g : Graph) (v w : Nat) : Prop :=
  (g.neighborList w).length < (g.neighborList v).length ∨
    (g.neighborList v).length = (g.neighborList w).length ∧ v < w

theorem goesBefore_iff {a b : Nat × Nat} :
    goesBefore a b = true ↔ b.1 < a.1 ∨ a.1 = b.1 ∧ a.2 ≤ b.2 := by
  simp [goesBefore]

theorem goesBefore_trans (a b c : Nat × Nat) (hab : goesBefore a b = true)
    (hbc : goesBefore b c = true) : goesBefore a c = true := by
  rw [goesBefore_iff] at *
  omega

theorem goesBefore_total (a b : Nat × Nat) : (goesBefore a b || goesBefore b a) = true := by
  rw [Bool.or_eq_true, goesBefore_iff, goesBefore_iff]
  omega

theorem positions_spec {oldIds : List Nat} (distinct : oldIds.Nodup)
    (inside : ∀ v ∈ oldIds, v < oldIds.length) :
    ∃ newIds, positions oldIds = .ok newIds ∧
      ∀ v ∈ oldIds, newIds[v]? = some (oldIds.idxOf v) := by
  have keys : oldIds.zipIdx.map (·.1) = oldIds := List.zipIdx_map_fst 0 oldIds
  obtain ⟨newIds, run, -, written, -⟩ := writes_spec (Array.replicate oldIds.length 0)
    (show (oldIds.zipIdx.map (·.1)).Nodup by rw [keys]; exact distinct)
    (by
      intro p hp
      rw [Array.size_replicate]
      exact inside p.1 (keys ▸ List.mem_map_of_mem hp))
  refine ⟨newIds, run, fun v hv => ?_⟩
  refine written (v, oldIds.idxOf v) ?_
  rw [List.mk_mem_zipIdx_iff_getElem?]
  exact List.getElem?_idxOf hv

/-- The row of an old vertex in new ids. -/
def renamedRow (oldIds ns : List Nat) : List Nat :=
  (ns.map oldIds.idxOf).mergeSort fun x y => decide (x ≤ y)

theorem mem_renamedRow {oldIds ns : List Nat} {b : Nat} :
    b ∈ renamedRow oldIds ns ↔ ∃ w ∈ ns, oldIds.idxOf w = b := by
  rw [renamedRow, List.mem_mergeSort, List.mem_map]

@[simp] theorem length_renamedRow (oldIds ns : List Nat) :
    (renamedRow oldIds ns).length = ns.length := by
  rw [renamedRow, List.length_mergeSort, List.length_map]

theorem ascending_renamedRow {oldIds ns : List Nat} (known : ∀ w ∈ ns, w ∈ oldIds)
    (distinct : ns.Nodup) : Ascending (renamedRow oldIds ns) := by
  have sorted : (renamedRow oldIds ns).Pairwise (· ≤ ·) := List.pairwise_mergeSort' _ _
  have nodup : (renamedRow oldIds ns).Nodup := by
    rw [renamedRow, (List.mergeSort_perm _ _).nodup_iff]
    refine List.Nodup.map_on ?_ distinct
    intro v hv w hw same
    exact (List.idxOf_inj (known v hv)).mp same
  exact (sorted.and nodup).imp fun h => Nat.lt_of_le_of_ne h.1 h.2

/-- The neighbor lists under new ids. -/
def renumberedLists (g : Graph) (oldIds : List Nat) : List (List Nat) :=
  oldIds.map fun v => renamedRow oldIds (g.neighborList v)

theorem map_length_renumberedLists (g : Graph) (oldIds : List Nat) :
    (renumberedLists g oldIds).map List.length =
      oldIds.map fun v => (g.neighborList v).length := by
  simp [renumberedLists, Function.comp_def]

/-- What a renumbered graph is to the graph it comes from. -/
structure Renumbers (g : Graph) (r : Renumbered) : Prop where
  permutes : r.oldIds.toList.Perm g.vertices
  sorted : r.oldIds.toList.Pairwise g.Precedes
  wellFormed : r.graph.WellFormed
  vertexCount : r.graph.vertexCount = g.vertexCount
  edgeCount : r.graph.edgeCount = g.edgeCount
  lists : ∀ a v, r.oldIds[a]? = some v →
    (r.graph.neighborList a).length = (g.neighborList v).length
  adj : ∀ a b, r.graph.Adj a b ↔
    ∃ v w, r.oldIds[a]? = some v ∧ r.oldIds[b]? = some w ∧ g.Adj v w

namespace Renumbers

variable {g : Graph} {r : Renumbered} (renumbers : g.Renumbers r)
include renumbers

theorem size_oldIds : r.oldIds.size = g.vertexCount := by
  rw [← Array.length_toList, renumbers.permutes.length_eq, vertices, List.length_range]

theorem nodup : r.oldIds.toList.Nodup :=
  renumbers.permutes.nodup_iff.mpr List.nodup_range

theorem mem_oldIds {v : Nat} : v ∈ r.oldIds.toList ↔ v < g.vertexCount := by
  rw [renumbers.permutes.mem_iff, mem_vertices]

end Renumbers

namespace WellFormed

variable {g : Graph} (wf : g.WellFormed)
include wf

theorem byDegree_eq : ∃ oldIds, g.byDegree = .ok oldIds ∧ oldIds.Perm g.vertices ∧
    oldIds.Pairwise g.Precedes := by
  have keyed : (g.vertices.mapM fun v => do return (← g.degree v, v)) =
      .ok (g.vertices.map fun v => ((g.neighborList v).length, v)) := by
    refine mapM_eq_map fun v hv => ?_
    rw [wf.degree_eq (mem_vertices.mp hv)]
    rfl
  have perm := List.mergeSort_perm (g.vertices.map fun v => ((g.neighborList v).length, v))
    goesBefore
  have sorted := List.pairwise_mergeSort goesBefore_trans goesBefore_total
    (g.vertices.map fun v => ((g.neighborList v).length, v))
  have named : ((g.vertices.map fun v => ((g.neighborList v).length, v)).map (·.2)) =
      g.vertices := by
    rw [List.map_map]
    exact List.map_id _
  refine ⟨_, by rw [byDegree, keyed]; rfl, ?_, ?_⟩
  · conv_rhs => rw [← named]
    exact perm.map _
  · rw [List.pairwise_map]
    -- the ids are distinct, so of two pairs in order the first goes strictly before
    have distinct : ((g.vertices.map fun v => ((g.neighborList v).length, v)).mergeSort
        goesBefore).Pairwise fun a b => a.2 ≠ b.2 := by
      rw [← List.pairwise_map]
      refine ((perm.map (·.2)).nodup_iff).mpr ?_
      rw [named]
      exact List.nodup_range
    refine List.Pairwise.imp_of_mem ?_ (sorted.and distinct)
    intro a b ha hb h
    obtain ⟨v, -, rfl⟩ := List.mem_map.mp (perm.mem_iff.mp ha)
    obtain ⟨w, -, rfl⟩ := List.mem_map.mp (perm.mem_iff.mp hb)
    obtain ⟨before, different⟩ := h
    rcases goesBefore_iff.mp before with hlt | ⟨heq, hle⟩
    · exact .inl hlt
    · exact .inr ⟨heq, Nat.lt_of_le_of_ne hle different⟩

theorem sum_renumberedLists {oldIds : List Nat} (perm : oldIds.Perm g.vertices) :
    ((renumberedLists g oldIds).map List.length).sum = g.neighbors.size := by
  rw [map_length_renumberedLists, wf.length, wf.degrees_eq]
  exact (perm.map _).sum_eq

/-- The rows of the renumbered graph. -/
theorem renumberByDegree_eq {oldIds : List Nat} (sorts : g.byDegree = .ok oldIds)
    (perm : oldIds.Perm g.vertices) :
    g.renumberByDegree =
      .ok ⟨ofLists g.edgeCount (renumberedLists g oldIds), oldIds.toArray⟩ := by
  have old {v : Nat} (hv : v ∈ oldIds) : v < g.vertexCount := mem_vertices.mp (perm.mem_iff.mp hv)
  have count : oldIds.length = g.vertexCount := by
    rw [perm.length_eq, vertices, List.length_range]
  obtain ⟨newIds, hnew, place⟩ := positions_spec (perm.nodup_iff.mpr List.nodup_range)
    (fun v hv => count ▸ old hv)
  have lengths : oldIds.mapM g.degree = .ok (oldIds.map fun v => (g.neighborList v).length) :=
    mapM_eq_map fun v hv => wf.degree_eq (old hv)
  have sum := wf.sum_renumberedLists perm
  rw [map_length_renumberedLists] at sum
  have offsets : prefixSums (oldIds.map fun v => (g.neighborList v).length) =
      .ok (sums (oldIds.map fun v => (g.neighborList v).length)).toArray := by
    refine prefixSums_eq_ok_iff.mpr ⟨?_, sum ▸ wf.fits, rfl⟩
    have := wf.vertexIds
    have : largestId.toNat + 1 < sizeLimit := by decide
    rw [List.length_map, count]
    omega
  have rows : (oldIds.mapM fun old => do
      let renamed ← (← g.row old).toList.mapM (read newIds)
      return (renamed.mergeSort (fun x y => decide (x ≤ y))).toArray) =
      .ok (oldIds.map fun v => (renamedRow oldIds (g.neighborList v)).toArray) := by
    refine mapM_eq_map fun v hv => ?_
    have renamed : (g.neighborList v).mapM (read newIds) =
        .ok ((g.neighborList v).map oldIds.idxOf) := by
      refine mapM_eq_map fun w hw => read_eq_ok.mpr (place w ?_)
      exact perm.mem_iff.mpr (mem_vertices.mpr (wf.lt_of_adj' hw))
    rw [wf.row_eq (old hv), ok_bind, renamed]
    rfl
  have flat : ((oldIds.map fun v =>
      (renamedRow oldIds (g.neighborList v)).toArray).toArray.flatten) =
      (renumberedLists g oldIds).flatten.toArray := by
    apply Array.toList_inj.mp
    simp [renumberedLists, Function.comp_def]
  have parts : ofParts g.edgeCount (sums (oldIds.map fun v => (g.neighborList v).length)).toArray
      (renumberedLists g oldIds).flatten.toArray
      (oldIds.map fun v => (g.neighborList v).length).toArray =
      .ok (ofLists g.edgeCount (renumberedLists g oldIds)) := by
    refine ofParts_eq_ok.mpr ⟨by simp, ?_, by rw [ofLists, map_length_renumberedLists]⟩
    rw [List.size_toArray, List.length_flatten, map_length_renumberedLists, sum, wf.halves]
  rw [renumberByDegree, sorts, ok_bind, hnew, ok_bind, lengths, ok_bind, offsets, ok_bind, rows,
    ok_bind, flat, parts]
  rfl

theorem adj_renumberedLists {oldIds : List Nat} (perm : oldIds.Perm g.vertices) (a b : Nat) :
    (ofLists g.edgeCount (renumberedLists g oldIds)).Adj a b ↔
      ∃ v w, oldIds[a]? = some v ∧ oldIds[b]? = some w ∧ g.Adj v w := by
  have distinct : oldIds.Nodup := perm.nodup_iff.mpr List.nodup_range
  rw [Adj, neighborList_ofLists, renumberedLists, List.getElem?_map]
  cases ha : oldIds[a]? with
  | none => simp
  | some v =>
    rw [Option.map_some, Option.getD_some, mem_renamedRow]
    constructor
    · rintro ⟨w, hw, rfl⟩
      have known : w ∈ oldIds := perm.mem_iff.mpr (mem_vertices.mpr (wf.lt_of_adj' hw))
      exact ⟨v, w, rfl, List.getElem?_idxOf known, hw⟩
    · rintro ⟨v', w, hv', hb, hw⟩
      obtain ⟨hlt, rfl⟩ := List.getElem?_eq_some_iff.mp hb
      exact ⟨_, Option.some.inj hv' ▸ hw, distinct.idxOf_getElem b hlt⟩

theorem wellFormed_renumberedLists {oldIds : List Nat} (perm : oldIds.Perm g.vertices) :
    (ofLists g.edgeCount (renumberedLists g oldIds)).WellFormed := by
  have distinct : oldIds.Nodup := perm.nodup_iff.mpr List.nodup_range
  have adj := wf.adj_renumberedLists perm
  have sum := wf.sum_renumberedLists perm
  refine wellFormed_ofLists (sum.trans wf.halves) ?_ ?_ ?_ ?_ (sum ▸ wf.fits)
  · intro ns hns
    obtain ⟨v, -, rfl⟩ := List.mem_map.mp hns
    refine ascending_renamedRow (fun w hw => ?_) (wf.ascending' v).nodup
    exact perm.mem_iff.mpr (mem_vertices.mpr (wf.lt_of_adj' hw))
  · intro a haa
    obtain ⟨v, w, hv, hw, hvw⟩ := (adj a a).mp haa
    rw [hv, Option.some.injEq] at hw
    exact wf.ne_of_adj hvw hw
  · intro a b hab
    obtain ⟨v, w, hv, hw, hvw⟩ := (adj a b).mp hab
    exact (adj b a).mpr ⟨w, v, hw, hv, wf.symmetric v w hvw⟩
  · rw [renumberedLists, List.length_map, perm.length_eq, vertices, List.length_range]
    exact wf.vertexIds

/-- Renumbering succeeds, and gives the same graph in new ids. -/
theorem renumberByDegree_spec : ∃ r, g.renumberByDegree = .ok r ∧ g.Renumbers r := by
  obtain ⟨oldIds, sorts, perm, sorted⟩ := wf.byDegree_eq
  refine ⟨_, wf.renumberByDegree_eq sorts perm, perm, sorted, wf.wellFormed_renumberedLists perm,
    ?_, rfl, ?_, by simpa using wf.adj_renumberedLists perm⟩
  · rw [vertexCount_ofLists, renumberedLists, List.length_map, perm.length_eq, vertices,
      List.length_range]
  · intro a v ha
    have ha : oldIds[a]? = some v := by simpa using ha
    rw [neighborList_ofLists, renumberedLists, List.getElem?_map, ha, Option.map_some,
      Option.getD_some, length_renamedRow]

end WellFormed

end Motif.Graph
