import Motif.Proofs.Triangles.Total

/-!
# Triangles at every vertex

Every triangle is credited to its three vertices, which differ, so a vertex ends with the number of
triangles that contain it. What was counted under new ids is moved back along the old ids, and by
counting vertices in triangles the other way round, all counts add up to three for each triangle.
-/

set_option autoImplicit false

namespace Motif.Triangles

open Sorted

/-- A count for each vertex, of the triangles that contain it. -/
structure Ranks (g : Graph) (counts : Array Nat) : Prop where
  size : counts.size = g.vertexCount
  count : ∀ v < g.vertexCount, counts[v]? = some (trianglesAt g v).card

def corners (t : Nat × Nat × Nat) : List Nat := [t.1, t.2.1, t.2.2]

theorem mem_corners {x : Nat} {t : Nat × Nat × Nat} : x ∈ corners t ↔ x ∈ members t := by
  simp [corners, members]

theorem credit_eq (counts : Array Nat) (t : Nat × Nat × Nat) :
    credit counts t = (corners t).foldlM (fun counts v => update counts v (· + 1)) counts := by
  simp only [credit, corners, List.foldlM_cons, List.foldlM_nil]
  cases update counts t.1 (· + 1) with
  | error e => rfl
  | ok counts =>
    rw [ok_bind, ok_bind]
    cases update counts t.2.1 (· + 1) with
    | error e => rfl
    | ok counts =>
      rw [ok_bind, ok_bind]
      cases update counts t.2.2 (· + 1) <;> rfl

section Credit

variable {g : Graph} (wf : g.WellFormed)
include wf

theorem triples_eq : triples g = .ok (tripleList g) := by
  have atEdge : ∀ u, ∀ v ∈ lowerList g u, (do
      let lower ← g.lowerRow v
      return (common (g.neighborList u) lower.toList).map fun w => (u, v, w)) =
      .ok ((closers g u v).map fun w => (u, v, w)) := by
    intro u v hv
    have hv := wf.lt_of_adj' (mem_lowerList.mp hv).2
    rw [wf.lowerRow_eq hv, ok_bind]
    change Except.ok ((common (g.neighborList u) (lowerList g v)).map fun w => (u, v, w)) = _
    rw [common_eq_filter (wf.ascending' u) (ascending_lowerList wf v)]
    rfl
  have atVertex : ∀ u ∈ g.vertices, (do
      let row ← g.row u
      let found ← (row.toList.takeWhile (· < u)).mapM fun v => do
        let lower ← g.lowerRow v
        return (common row.toList lower.toList).map fun w => (u, v, w)
      return found.flatten) =
      .ok ((lowerList g u).flatMap fun v => (closers g u v).map fun w => (u, v, w)) := by
    intro u hu
    rw [wf.row_eq (Graph.mem_vertices.mp hu), ok_bind]
    dsimp only
    rw [takeWhile_row wf, mapM_eq_map (atEdge u), List.flatMap_def]
    rfl
  rw [triples, mapM_eq_map atVertex, tripleList, List.flatMap_def]
  rfl

theorem card_trianglesAt (x : Nat) :
    (trianglesAt g x).card = (tripleList g).countP (x ∈ members ·) := by
  have image : trianglesAt g x =
      ((tripleList g).filter (x ∈ members ·)).toFinset.image members := by
    ext s
    rw [mem_trianglesAt, ← image_tripleList wf]
    simp only [Finset.mem_image, List.mem_toFinset, List.mem_filter, decide_eq_true_eq]
    constructor
    · rintro ⟨⟨t, ht, rfl⟩, hx⟩
      exact ⟨t, ⟨ht, hx⟩, rfl⟩
    · rintro ⟨t, ⟨ht, hx⟩, rfl⟩
      exact ⟨⟨t, ht, rfl⟩, hx⟩
  rw [image, Finset.card_image_of_injOn,
    List.toFinset_card_of_nodup ((nodup_tripleList wf).filter _), List.countP_eq_length_filter]
  apply (members_injOn wf).mono
  intro t ht
  exact (List.mem_filter.mp (List.mem_toFinset.mp ht)).1

/-- A triangle names each of its vertices once. -/
theorem nodup_corners {t : Nat × Nat × Nat} (ht : t ∈ tripleList g) : (corners t).Nodup := by
  obtain ⟨u, v, w⟩ := t
  obtain ⟨hwv, hvu, -⟩ := (mem_tripleList wf).mp ht
  simp only [corners, List.nodup_cons, List.mem_cons, List.not_mem_nil, or_false,
    not_false_eq_true, List.nodup_nil, and_true]
  omega

theorem count_corners (x : Nat) :
    ((tripleList g).flatMap corners).count x = (trianglesAt g x).card := by
  have once : ∀ t ∈ tripleList g, (corners t).count x = if x ∈ members t then 1 else 0 := by
    intro t ht
    rw [(nodup_corners wf ht).count]
    simp only [mem_corners]
  rw [card_trianglesAt wf]
  generalize tripleList g = ts at once
  induction ts with
  | nil => rfl
  | cons t ts ih =>
    rw [List.flatMap_cons, List.count_append, List.countP_cons, once t List.mem_cons_self,
      ih fun t ht => once t (List.mem_cons_of_mem _ ht), Nat.add_comm]
    simp only [decide_eq_true_eq]

theorem countPerVertex_spec : ∃ counts, countPerVertex g = .ok counts ∧ Ranks g counts := by
  have inside : ∀ x ∈ (tripleList g).flatMap corners,
      x < (Array.replicate g.vertexCount 0).size := by
    intro x hx
    obtain ⟨⟨u, v, w⟩, ht, hx⟩ := List.mem_flatMap.mp hx
    obtain ⟨-, -, huv, huw, -⟩ := (mem_tripleList wf).mp ht
    rw [Array.size_replicate]
    simp only [corners, List.mem_cons, List.not_mem_nil, or_false] at hx
    rcases hx with rfl | rfl | rfl
    · exact wf.lt_of_adj huv
    · exact wf.lt_of_adj' huv
    · exact wf.lt_of_adj' huw
  obtain ⟨counts, run, size, count⟩ := increments_spec _ inside
  refine ⟨counts, ?_, ?_, ?_⟩
  · rw [countPerVertex, triples_eq wf, ok_bind, foldlM_congr fun t _ s => credit_eq s t,
      ← foldlM_flatMap]
    exact run
  · rw [size, Array.size_replicate]
  · intro v hv
    rw [count v, count_corners wf]
    simp [hv]

end Credit

/-- Counts are moved from the new id of a vertex to its old one. -/
theorem restore_spec {oldIds counts : Array Nat}
    (permutes : oldIds.toList.Perm (List.range counts.size)) :
    ∃ ranks, restore oldIds counts = .ok ranks ∧ ranks.size = counts.size ∧
      ∀ a v c : Nat, oldIds[a]? = some v → counts[a]? = some c → ranks[v]? = some c := by
  have keys : (oldIds.toList.zip counts.toList).map (·.1) = oldIds.toList :=
    List.map_fst_zip (by simpa using permutes.length_eq.le)
  obtain ⟨ranks, run, size, written, -⟩ := writes_spec (Array.replicate counts.size 0)
    (show ((oldIds.toList.zip counts.toList).map (·.1)).Nodup by
      rw [keys]
      exact permutes.nodup_iff.mpr List.nodup_range)
    (by
      intro p hp
      rw [Array.size_replicate]
      have hmem : p.1 ∈ oldIds.toList := keys ▸ List.mem_map_of_mem hp
      exact List.mem_range.mp (permutes.mem_iff.mp hmem))
  refine ⟨ranks, run, by rw [size, Array.size_replicate], ?_⟩
  intro a v c hv hc
  apply written (v, c)
  apply List.mem_of_getElem? (i := a)
  rw [List.getElem?_zip_eq_some]
  exact ⟨by simpa using hv, by simpa using hc⟩

namespace Ranks

variable {g : Graph} {counts : Array Nat}

theorem restore {r : Graph.Renumbered} (wf : g.WellFormed) (renumbers : g.Renumbers r)
    (ranks : Ranks r.graph counts) :
    ∃ restored, Triangles.restore r.oldIds counts = .ok restored ∧ Ranks g restored := by
  have count : counts.size = g.vertexCount := ranks.size.trans renumbers.vertexCount
  have permutes : r.oldIds.toList.Perm (List.range counts.size) := by
    rw [count]
    exact renumbers.permutes
  obtain ⟨restored, run, size, moved⟩ := restore_spec permutes
  refine ⟨restored, run, size.trans count, ?_⟩
  intro v hv
  have old := renumbers.getElem?_idxOf hv
  rw [← card_trianglesAt_renumbered wf renumbers old]
  apply moved _ v _ old
  apply ranks.count
  rw [renumbers.vertexCount, ← renumbers.size_oldIds]
  exact (Array.getElem?_eq_some_iff.mp old).1

theorem toList_eq (ranks : Ranks g counts) :
    counts.toList = g.vertices.map fun v => (trianglesAt g v).card := by
  apply List.ext_getElem
  · simpa [Graph.vertices] using ranks.size
  · intro v hv _
    have entry := ranks.count v (ranks.size ▸ hv)
    rw [Array.getElem?_eq_getElem hv, Option.some.injEq] at entry
    simpa [Graph.vertices] using entry

/-- A triangle is counted at each of its three vertices. -/
theorem sum_eq (ranks : Ranks g counts) : counts.toList.sum = 3 * (triangles g).card := by
  have swapped := Finset.sum_card_bipartiteAbove_eq_sum_card_bipartiteBelow
    (s := Finset.range g.vertexCount) (t := triangles g) (fun v s => v ∈ s)
  have three : ∀ s ∈ triangles g,
      ((Finset.range g.vertexCount).bipartiteBelow (fun v s => v ∈ s) s).card = 3 := by
    intro s hs
    obtain ⟨vertices, card, -⟩ := mem_triangles.mp hs
    rw [← card]
    congr 1
    ext v
    rw [Finset.mem_bipartiteBelow, Finset.mem_range]
    exact ⟨fun h => h.2, fun h => ⟨vertices v h, h⟩⟩
  rw [ranks.toList_eq, Graph.vertices, ← List.sum_toFinset _ List.nodup_range,
    List.toFinset_range]
  rw [Finset.sum_congr rfl three, Finset.sum_const, smul_eq_mul, Nat.mul_comm] at swapped
  exact swapped

/-- The other two vertices tell the triangles at a vertex apart, so these are no more than pairs. -/
theorem lt_sizeLimit (ranks : Ranks g counts) (wf : g.WellFormed) :
    ∀ count ∈ counts.toList, count < sizeLimit := by
  intro count hcount
  rw [ranks.toList_eq] at hcount
  obtain ⟨v, -, rfl⟩ := List.mem_map.mp hcount
  have pairs : (trianglesAt g v).card ≤
      ((Finset.range g.vertexCount).powersetCard 2).card := by
    apply Finset.card_le_card_of_injOn (Finset.erase · v)
    · intro s hs
      obtain ⟨hs, hv⟩ := mem_trianglesAt.mp hs
      obtain ⟨vertices, three, -⟩ := mem_triangles.mp hs
      refine Finset.mem_powersetCard.mpr ⟨fun w hw => ?_, ?_⟩
      · exact Finset.mem_range.mpr (vertices w (Finset.mem_of_mem_erase hw))
      · rw [Finset.card_erase_of_mem hv, three]
    · intro s hs t ht same
      dsimp only at same
      rw [← Finset.insert_erase (mem_trianglesAt.mp hs).2, same,
        Finset.insert_erase (mem_trianglesAt.mp ht).2]
  have vertexIds := wf.vertexIds
  have square : g.vertexCount * g.vertexCount ≤ largestId.toNat * largestId.toNat :=
    Nat.mul_le_mul vertexIds vertexIds
  have limit : largestId.toNat * largestId.toNat < sizeLimit := by decide
  calc (trianglesAt g v).card
      ≤ g.vertexCount.choose 2 := by simpa using pairs
    _ = g.vertexCount * (g.vertexCount - 1) / 2 := Nat.choose_two_right _
    _ ≤ g.vertexCount * (g.vertexCount - 1) := Nat.div_le_self _ _
    _ ≤ g.vertexCount * g.vertexCount := Nat.mul_le_mul_left _ (Nat.sub_le _ _)
    _ < sizeLimit := by omega

end Ranks

section Run

variable {g : Graph} (wf : g.WellFormed) (renumber : Bool) (threshold : Nat)
  (intersect : Intersector)
include wf

/-- A run for a total gives the number of triangles, or fails if that is no number of 64 bits. -/
theorem rankWith_total_eq_fit (counts : Counts intersect) :
    rankWith ⟨.total, renumber, threshold⟩ g intersect =
      Ranking.total <$> fit (triangles g).card := by
  rw [rankWith]
  split
  case isTrue empty =>
    have none := Graph.isEmpty_iff.mp empty
    rw [triangles, none]
    rfl
  case isFalse nonempty =>
    have some := Graph.not_isEmpty_iff.mp nonempty
    obtain ⟨plan, planned, choice⟩ := plan_spec wf some ⟨.total, renumber, threshold⟩
    have listed : plan.graph.WellFormed ∧ (triangles plan.graph).card = (triangles g).card := by
      rcases choice with ⟨same, -⟩ | ⟨-, r, renumbers, same, -⟩
      · rw [same]
        exact ⟨wf, rfl⟩
      · rw [same]
        exact ⟨renumbers.wellFormed, card_triangles_renumbered wf renumbers⟩
    rw [planned, ok_bind, ← listed.2, card_triangles listed.1]
    dsimp only
    split
    · rw [countByIntersecting_eq_fit listed.1 counts]
      exact bind_pure_comp _ _
    · rw [countByScanning_eq_fit listed.1]
      exact bind_pure_comp _ _

theorem rankWith_perVertex_spec : ∃ counts,
    rankWith ⟨.perVertex, renumber, threshold⟩ g intersect = .ok (.perVertex counts) ∧
      Ranks g counts := by
  rw [rankWith]
  split
  case isTrue empty =>
    have none := Graph.isEmpty_iff.mp empty
    exact ⟨#[], rfl, none.symm, fun v hv => by omega⟩
  case isFalse nonempty =>
    have some := Graph.not_isEmpty_iff.mp nonempty
    obtain ⟨plan, planned, choice⟩ := plan_spec wf some ⟨.perVertex, renumber, threshold⟩
    rw [planned, ok_bind]
    dsimp only
    rcases choice with ⟨same, kept⟩ | ⟨-, r, renumbers, same, kept⟩
    · obtain ⟨counts, run, ranks⟩ := countPerVertex_spec wf
      rw [same, kept, run]
      exact ⟨counts, rfl, ranks⟩
    · obtain ⟨counts, run, ranks⟩ := countPerVertex_spec renumbers.wellFormed
      obtain ⟨restored, moved, ranks'⟩ := ranks.restore wf renumbers
      rw [same, kept, run, ok_bind]
      dsimp only
      rw [moved]
      exact ⟨restored, rfl, ranks'⟩

end Run

/-- A run for every vertex always succeeds, whatever the options and the intersector; under the
ids of the given graph it holds the number of triangles that contain the vertex. So all counts add
up to three times what a run for a total gives, and such a run gives a count exactly when the number
of triangles is one of 64 bits. -/
theorem rankWith_perVertex {g : Graph} (constructed : g.Constructed) (renumber : Bool)
    (threshold : Nat) (intersect : Intersector) :
    ∃ counts, rankWith ⟨.perVertex, renumber, threshold⟩ g intersect = .ok (.perVertex counts) ∧
      counts.size = g.vertexCount ∧
      (∀ v < g.vertexCount, counts[v]? = some ((triangles g).filter (v ∈ ·)).card) ∧
      (∀ count ∈ counts.toList, count < sizeLimit) ∧
      ∀ renumber' threshold' intersect', Counts intersect' →
        ((∃ count, rankWith ⟨.total, renumber', threshold'⟩ g intersect' = .ok (.total count)) ↔
          (triangles g).card < sizeLimit) ∧
        ∀ count, rankWith ⟨.total, renumber', threshold'⟩ g intersect' = .ok (.total count) →
          counts.toList.sum = 3 * count := by
  have wf := constructed.wellFormed
  obtain ⟨counts, run, ranks⟩ := rankWith_perVertex_spec wf renumber threshold intersect
  refine ⟨counts, run, ranks.size, ranks.count, ranks.lt_sizeLimit wf, ?_⟩
  intro renumber' threshold' intersect' correct
  have total := rankWith_total_eq_fit wf renumber' threshold' intersect' correct
  have returns (count : Nat) :
      rankWith ⟨.total, renumber', threshold'⟩ g intersect' = .ok (.total count) ↔
        (triangles g).card < sizeLimit ∧ (triangles g).card = count := by
    rw [total, ← fit_eq_ok]
    cases fit (triangles g).card with
    | error e => exact ⟨nofun, nofun⟩
    | ok found =>
      change Except.ok (Ranking.total found) = _ ↔ _
      rw [Except.ok.injEq, Except.ok.injEq, Ranking.total.injEq]
  refine ⟨⟨?_, ?_⟩, ?_⟩
  · rintro ⟨count, given⟩
    exact ((returns count).mp given).1
  · intro fits
    exact ⟨_, (returns _).mpr ⟨fits, rfl⟩⟩
  · intro count given
    rw [ranks.sum_eq, ((returns count).mp given).2]

/-- The new ids are a cycle of four old ones, so moving the counts the other way would show. -/
theorem rankWith_perVertex_strip : ∃ g counts,
    Graph.ofEdges [(0, 1), (0, 2), (1, 2), (2, 3), (2, 4), (1, 3), (3, 4), (3, 5)] = .ok g ∧
      (·.oldIds) <$> g.renumberByDegree = .ok #[2, 3, 1, 0, 4, 5] ∧
      rankWith ⟨.perVertex, true, 1⟩ g (fun _ _ => .ok 0) = .ok (.perVertex counts) ∧
      counts.toList = [1, 2, 3, 2, 1, 0] ∧
      Counts (Intersection.Strategy.portable .four).size ∧
      rankWith ⟨.total, false, 9⟩ g (Intersection.Strategy.portable .four).size = .ok (.total 3) ∧
      counts.toList.sum = 3 * 3 := by
  have made : Graph.ofEdges
      [(0, 1), (0, 2), (1, 2), (2, 3), (2, 4), (1, 3), (3, 4), (3, 5)] =
      .ok ⟨8, #[0, 2, 5, 9, 13, 15, 16], #[1, 2, 0, 2, 3, 0, 1, 3, 4, 1, 2, 4, 5, 2, 3, 3],
        #[2, 3, 4, 4, 2, 1]⟩ := by cbv
  obtain ⟨counts, run, size, count, -, total⟩ :=
    rankWith_perVertex (.ofEdges made) true 1 fun _ _ => .ok 0
  have correct := counts_portable .four
  obtain ⟨returns, sum⟩ := total false 9 _ correct
  obtain ⟨three, given⟩ := returns.mpr (by decide +kernel)
  have list : counts.toList = [1, 2, 3, 2, 1, 0] := by
    rw [Ranks.toList_eq ⟨size, count⟩]
    decide +kernel
  have nine := sum three given
  rw [list] at nine
  obtain rfl : three = 3 := by
    change 9 = 3 * three at nine
    omega
  exact ⟨_, counts, made, by cbv, run, list, correct, given, sum 3 given⟩

end Motif.Triangles
