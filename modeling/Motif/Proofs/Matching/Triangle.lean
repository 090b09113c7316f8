import Motif.Proofs.Matching.Embeddings
import Motif.Proofs.Triangles.PerVertex

/-!
# Matching a triangle

A row matches a triangle exactly when its three entries are the vertices of one in the target, in
any order. So the rows are the orders of the listed triangles: six of each, and in every column each
vertex of it twice. The search and the counters agree, whatever their options.
-/

set_option autoImplicit false

namespace Motif.Matching

open Triangles Intersection

/-- Three vertices, each adjacent to the two others. -/
structure IsTriangle (g : Graph) : Prop where
  vertexCount : g.vertexCount = 3
  adjacent : ∀ u < 3, ∀ v < 3, u ≠ v → g.Adj u v

theorem mem_entries {row : Array Nat} {x : Nat} :
    x ∈ row.toList.toFinset ↔ ∃ v : Nat, row[v]? = some x := by
  rw [List.mem_toFinset, List.mem_iff_getElem?]
  simp only [Array.getElem?_toList]

theorem lt_size_of_entry {row : Array Nat} {v x : Nat} (hv : row[v]? = some x) : v < row.size :=
  (Array.getElem?_eq_some_iff.mp hv).1

namespace IsTriangle

variable {target pattern : Graph} (triangle : IsTriangle pattern) {kind : Kind} {row : Array Nat}
include triangle

theorem entries_mem_triangles (h : IsEmbedding kind target pattern row) :
    row.toList.toFinset ∈ triangles target := by
  have size : row.size = 3 := h.size.trans triangle.vertexCount
  rw [mem_triangles]
  refine ⟨?_, ?_, ?_⟩
  · intro x hx
    obtain ⟨v, hv⟩ := mem_entries.mp hx
    exact h.inside v x hv
  · rw [List.toFinset_card_of_nodup h.nodup, Array.length_toList, size]
  · intro x hx y hy hne
    obtain ⟨u, hu⟩ := mem_entries.mp hx
    obtain ⟨v, hv⟩ := mem_entries.mp hy
    apply h.edges u v x y hu hv
    apply triangle.adjacent u (size ▸ lt_size_of_entry hu) v (size ▸ lt_size_of_entry hv)
    rintro rfl
    exact hne (Option.some.inj (hu.symm.trans hv))

/-- Both kinds of matching are one, since a triangle has no pairs without an edge. -/
theorem isEmbedding_of_mem_triangles (wf : pattern.WellFormed) (nodup : row.toList.Nodup)
    (h : row.toList.toFinset ∈ triangles target) : IsEmbedding kind target pattern row := by
  obtain ⟨inside, three, adjacent⟩ := mem_triangles.mp h
  have size : row.size = 3 := by
    rw [← Array.length_toList, ← List.toFinset_card_of_nodup nodup, three]
  have injective (u v x : Nat) (hu : row[u]? = some x) (hv : row[v]? = some x) : u = v := by
    rw [← Array.getElem?_toList] at hu hv
    exact position_unique nodup hu hv
  refine ⟨size.trans triangle.vertexCount.symm, ?_, injective, ?_, ?_⟩
  · intro v x hv
    exact inside x (mem_entries.mpr ⟨v, hv⟩)
  · intro u v x y hu hv huv
    apply adjacent x (mem_entries.mpr ⟨u, hu⟩) y (mem_entries.mpr ⟨v, hv⟩)
    rintro rfl
    exact wf.ne_of_adj huv (injective u v x hu hv)
  · intro _ u v x y hu hv hne apart
    exact absurd (triangle.adjacent u (size ▸ lt_size_of_entry hu) v (size ▸ lt_size_of_entry hv) hne)
      apart

theorem isEmbedding_iff (wf : pattern.WellFormed) :
    IsEmbedding kind target pattern row ↔
      row.toList.Nodup ∧ row.toList.toFinset ∈ triangles target := by
  constructor
  · intro h
    exact ⟨h.nodup, triangle.entries_mem_triangles h⟩
  · rintro ⟨nodup, h⟩
    exact triangle.isEmbedding_of_mem_triangles wf nodup h

end IsTriangle

/-- Every listed triangle in each of its orders. -/
def orders (g : Graph) : List (Array Nat) :=
  (tripleList g).flatMap fun t => (corners t).permutations'.map List.toArray

theorem length_orders (g : Graph) : (orders g).length = 6 * (tripleList g).length := by
  have six (t : Nat × Nat × Nat) : ((corners t).permutations'.map List.toArray).length = 6 := rfl
  rw [orders, List.length_flatMap]
  simp only [six, List.map_const', List.sum_replicate, smul_eq_mul, Nat.mul_comm]

/-- Each of three is at each position in two of their six orders. -/
theorem countP_permutations (t : Nat × Nat × Nat) (x : Nat) {p : Nat} (hp : p < 3) :
    ((corners t).permutations'.map List.toArray).countP (·[p]? = some x) =
      2 * (corners t).count x := by
  obtain ⟨a, b, c⟩ := t
  have six : (corners (a, b, c)).permutations'.map List.toArray =
      [#[a, b, c], #[b, a, c], #[b, c, a], #[a, c, b], #[c, a, b], #[c, b, a]] := rfl
  rw [six, corners]
  interval_cases p
  all_goals
    simp [List.countP_cons, List.count_cons]
    omega

section Orders

variable {g : Graph} (wf : g.WellFormed)
include wf

omit wf in
theorem members_eq (t : Nat × Nat × Nat) : members t = (corners t).toFinset := by
  simp [members, corners]

theorem mem_orders {row : Array Nat} :
    row ∈ orders g ↔ row.toList.Nodup ∧ row.toList.toFinset ∈ triangles g := by
  rw [← image_tripleList wf, Finset.mem_image]
  simp only [orders, List.mem_flatMap, List.mem_map, List.mem_permutations', List.mem_toFinset]
  constructor
  · rintro ⟨t, ht, order, same, rfl⟩
    refine ⟨same.nodup_iff.mpr (nodup_corners wf ht), t, ht, ?_⟩
    rw [members_eq]
    exact List.toFinset_eq_of_perm _ _ same.symm
  · rintro ⟨nodup, t, ht, same⟩
    refine ⟨t, ht, row.toList, ?_, row.toArray_toList⟩
    apply List.perm_of_nodup_nodup_toFinset_eq nodup (nodup_corners wf ht)
    rw [← members_eq, same]

theorem nodup_orders : (orders g).Nodup := by
  rw [orders, List.nodup_flatMap]
  constructor
  · intro t ht
    apply List.Nodup.map (fun xs ys same => by simpa using same)
    rw [← (List.permutations_perm_permutations' _).nodup_iff]
    exact List.nodup_permutations _ (nodup_corners wf ht)
  · apply (nodup_tripleList wf).imp_of_mem
    intro t t' ht ht' hne row hrow hrow'
    obtain ⟨order, same, rfl⟩ := List.mem_map.mp hrow
    obtain ⟨order', same', equal⟩ := List.mem_map.mp hrow'
    obtain rfl : order' = order := by simpa using equal
    apply hne
    apply members_injOn wf ht ht'
    rw [members_eq, members_eq]
    apply List.toFinset_eq_of_perm
    exact (List.mem_permutations'.mp same).symm.trans (List.mem_permutations'.mp same')

theorem countP_orders (x : Nat) {p : Nat} (hp : p < 3) :
    (orders g).countP (·[p]? = some x) = 2 * (trianglesAt g x).card := by
  rw [orders, List.countP_flatMap, ← count_corners wf, List.count_flatMap, ← List.sum_map_mul_left]
  simp only [Function.comp_def, countP_permutations _ x hp]

end Orders

/-- The rows of a search for a triangle are the orders of the listed triangles. -/
theorem exists_orders {g pattern : Graph} (wf : g.WellFormed) (source : pattern.WellFormed)
    (nonempty : 0 < g.vertexCount) (triangle : IsTriangle pattern) (kind : Kind) :
    ∃ found, Finds ⟨kind, false, 0⟩ g pattern found ∧
      found.table.rows.Perm (orders g) ∧ found.count = 6 * (triangles g).card := by
  have patternSome : 0 < pattern.vertexCount := by
    rw [triangle.vertexCount]
    exact Nat.zero_lt_succ 2
  obtain ⟨found, run, complete⟩ := exists_complete wf source nonempty patternSome kind
  have same : found.table.rows.Perm (orders g) := by
    rw [List.perm_ext_iff_of_nodup complete.nodup (nodup_orders wf)]
    intro row
    rw [complete.mem_rows, triangle.isEmbedding_iff source, mem_orders wf]
  refine ⟨found, run, same, ?_⟩
  rw [complete.count, same.length_eq, length_orders, card_triangles wf]

/-- A search for a triangle finds six times what any run for a total gives, as long as that is a
number of 64 bits; and in the column of each pattern vertex, every vertex as often as twice what any
run for every vertex gives it. -/
theorem embeddings_triangle {g pattern : Graph} (made : g.Constructed)
    (patternMade : pattern.Constructed) (nonempty : 0 < g.vertexCount)
    (triangle : IsTriangle pattern) (kind : Kind) :
    ∃ found count, Finds ⟨kind, false, 0⟩ g pattern found ∧
      found.count = found.table.rows.length ∧ found.count = 6 * count ∧
      (∀ processor renumber threshold,
        (count < sizeLimit →
          rank processor ⟨.total, renumber, threshold⟩ g = .ok (.total count)) ∧
        ∀ ranking, rank processor ⟨.total, renumber, threshold⟩ g = .ok ranking →
          ranking = .total count) ∧
      ∀ processor renumber threshold, ∃ ranks,
        rank processor ⟨.perVertex, renumber, threshold⟩ g = .ok (.perVertex ranks) ∧
          ∀ v < g.vertexCount, ∃ n, ranks[v]? = some n ∧ ∀ p < pattern.vertexCount,
            found.table.rows.countP (fun row => row[p]? = some v) = 2 * n := by
  have wf := made.wellFormed
  obtain ⟨found, run, same, six⟩ := exists_orders wf patternMade.wellFormed nonempty triangle kind
  refine ⟨found, (triangles g).card, run, ?_, six, ?_, ?_⟩
  · rw [six, same.length_eq, length_orders, card_triangles wf]
  · intro processor renumber threshold
    have total := rankWith_total_eq_fit wf renumber threshold _ (counts_detect processor)
    rw [rank, total]
    constructor
    · intro fits
      rw [fit_of_lt fits]
      rfl
    · intro ranking given
      unfold fit at given
      split at given
      case isTrue => exact (Except.ok.inj given).symm
      case isFalse => cases given
  · intro processor renumber threshold
    obtain ⟨ranks, ranked, atVertices⟩ :=
      rankWith_perVertex_spec wf renumber threshold (Strategy.detect processor).size
    refine ⟨ranks, ranked, ?_⟩
    intro v hv
    refine ⟨_, atVertices.count v hv, ?_⟩
    intro p hp
    rw [same.countP_eq, countP_orders wf v (triangle.vertexCount ▸ hp)]

/-- Three triangles in a strip and a tail: the vertex with the most neighbors is in all of them. -/
theorem embeddings_triangle_strip : ∃ g pattern found ranks,
    Graph.ofEdges [(0, 1), (0, 2), (1, 2), (2, 3), (2, 4), (1, 3), (3, 4), (3, 5)] = .ok g ∧
      Graph.ofEdges [(0, 1), (1, 2), (2, 0)] = .ok pattern ∧ IsTriangle pattern ∧
      Finds ⟨.induced, false, 0⟩ g pattern found ∧
      rank ⟨true, true, true⟩ ⟨.total, true, 1⟩ g = .ok (.total 3) ∧ found.count = 6 * 3 ∧
      rank ⟨true, true, true⟩ ⟨.perVertex, true, 1⟩ g = .ok (.perVertex ranks) ∧
      ranks[2]? = some 3 ∧ found.table.rows.countP (fun row => row[1]? = some 2) = 2 * 3 := by
  have made : Graph.ofEdges
      [(0, 1), (0, 2), (1, 2), (2, 3), (2, 4), (1, 3), (3, 4), (3, 5)] =
      .ok ⟨8, #[0, 2, 5, 9, 13, 15, 16], #[1, 2, 0, 2, 3, 0, 1, 3, 4, 1, 2, 4, 5, 2, 3, 3],
        #[2, 3, 4, 4, 2, 1]⟩ := by cbv
  have patternMade : Graph.ofEdges [(0, 1), (1, 2), (2, 0)] =
      .ok ⟨3, #[0, 2, 4, 6], #[1, 2, 0, 2, 0, 1], #[2, 2, 2]⟩ := by cbv
  have triangle : IsTriangle ⟨3, #[0, 2, 4, 6], #[1, 2, 0, 2, 0, 1], #[2, 2, 2]⟩ :=
    ⟨rfl, by decide +kernel⟩
  obtain ⟨found, count, run, -, six, total, atVertices⟩ :=
    embeddings_triangle (.ofEdges made) (.ofEdges patternMade) (by decide) triangle .induced
  have counted : rank ⟨true, true, true⟩ ⟨.total, true, 1⟩
      ⟨8, #[0, 2, 5, 9, 13, 15, 16], #[1, 2, 0, 2, 3, 0, 1, 3, 4, 1, 2, 4, 5, 2, 3, 3],
        #[2, 3, 4, 4, 2, 1]⟩ = .ok (.total 3) := by cbv
  obtain ⟨ranks, ranked, columns⟩ := atVertices ⟨true, true, true⟩ true 1
  have three : Ranking.total 3 = .total count := (total _ true 1).2 _ counted
  obtain rfl : 3 = count := Ranking.total.inj three
  have moved : rank ⟨true, true, true⟩ ⟨.perVertex, true, 1⟩
      ⟨8, #[0, 2, 5, 9, 13, 15, 16], #[1, 2, 0, 2, 3, 0, 1, 3, 4, 1, 2, 4, 5, 2, 3, 3],
        #[2, 3, 4, 4, 2, 1]⟩ = .ok (.perVertex #[1, 2, 3, 2, 1, 0]) := by cbv
  obtain ⟨n, third, often⟩ := columns 2 (by decide)
  rw [moved, Except.ok.injEq, Ranking.perVertex.injEq] at ranked
  obtain rfl := ranked
  obtain rfl : 3 = n := Option.some.inj third
  exact ⟨_, _, found, _, made, patternMade, triangle, run, counted, six, moved, third,
    often 1 (by decide)⟩

end Motif.Matching
