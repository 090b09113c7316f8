import Motif.Proofs.Graph.WellFormed

/-!
# Edges

Neighbor lists that are symmetric and without loops hold every edge twice, once at each end, so
their lengths add up to twice the number of edges. The list of edges names each edge once, by its
smaller end first, in lexicographic order.
-/

set_option autoImplicit false

namespace Motif.Graph

open Sorted

/-- The pairs `u < v` below `n` of which `v` is listed under `u`. -/
def listedPairs (n : Nat) (lists : Nat → List Nat) : Finset (Nat × Nat) :=
  (Finset.range n ×ˢ Finset.range n).filter fun p => p.1 < p.2 ∧ p.2 ∈ lists p.1

theorem card_listed (n : Nat) (lists : Nat → List Nat) (nodup : ∀ u < n, (lists u).Nodup)
    (inside : ∀ u < n, ∀ v ∈ lists u, v < n) :
    ((Finset.range n ×ˢ Finset.range n).filter fun p => p.2 ∈ lists p.1).card =
      ((List.range n).map fun u => (lists u).length).sum := by
  rw [Finset.card_eq_sum_card_fiberwise (f := Prod.fst) (t := Finset.range n) (by
    intro p hp
    simp only [Finset.coe_filter, Finset.mem_product, Set.mem_ofPred_eq] at hp
    exact hp.1.1), ← List.sum_toFinset _ List.nodup_range, List.toFinset_range]
  refine Finset.sum_congr rfl fun u hu => ?_
  have hu : u < n := Finset.mem_range.mp hu
  have fiber : ((Finset.range n ×ˢ Finset.range n).filter fun p => p.2 ∈ lists p.1).filter
      (fun p => p.1 = u) = (lists u).toFinset.image fun v => (u, v) := by
    ext ⟨a, b⟩
    simp only [Finset.mem_filter, Finset.mem_product, Finset.mem_range, Finset.mem_image,
      List.mem_toFinset, Prod.mk.injEq]
    constructor
    · rintro ⟨⟨-, hb⟩, rfl⟩
      exact ⟨b, hb, rfl, rfl⟩
    · rintro ⟨v, hv, rfl, rfl⟩
      exact ⟨⟨⟨hu, inside u hu v hv⟩, hv⟩, rfl⟩
  rw [fiber, Finset.card_image_of_injective _ (Prod.mk_right_injective u),
    List.toFinset_card_of_nodup (nodup u hu)]

/-- Each edge is listed at both of its ends. -/
theorem sum_length_eq (n : Nat) (lists : Nat → List Nat) (nodup : ∀ u < n, (lists u).Nodup)
    (inside : ∀ u < n, ∀ v ∈ lists u, v < n) (loopless : ∀ u < n, u ∉ lists u)
    (symmetric : ∀ u < n, ∀ v ∈ lists u, u ∈ lists v) :
    ((List.range n).map fun u => (lists u).length).sum = 2 * (listedPairs n lists).card := by
  rw [← card_listed n lists nodup inside,
    ← Finset.card_filter_add_card_filter_not (fun p : Nat × Nat => p.1 < p.2), Nat.two_mul]
  have upward : (((Finset.range n ×ˢ Finset.range n).filter fun p => p.2 ∈ lists p.1).filter
      fun p => p.1 < p.2) = listedPairs n lists := by
    rw [Finset.filter_filter, listedPairs]
    simp only [and_comm]
  have downward : (((Finset.range n ×ˢ Finset.range n).filter fun p => p.2 ∈ lists p.1).filter
      fun p => ¬ p.1 < p.2) = (listedPairs n lists).image Prod.swap := by
    ext ⟨a, b⟩
    simp only [listedPairs, Finset.mem_filter, Finset.mem_product, Finset.mem_range,
      Finset.mem_image, Prod.exists, Prod.swap_prod_mk, Prod.mk.injEq]
    constructor
    · rintro ⟨⟨⟨ha, hb⟩, hmem⟩, hge⟩
      have : a ≠ b := fun h => loopless a ha (h ▸ hmem)
      exact ⟨b, a, ⟨⟨hb, ha⟩, by omega, symmetric a ha b hmem⟩, rfl, rfl⟩
    · rintro ⟨c, d, ⟨⟨hc, hd⟩, hlt, hmem⟩, rfl, rfl⟩
      exact ⟨⟨⟨hd, hc⟩, symmetric c hc d hmem⟩, by omega⟩
  rw [upward, downward, Finset.card_image_of_injective _ Prod.swap_injective]

/-- The edges of a graph, each as a pair with the smaller vertex first. -/
def edgePairs (g : Graph) : Finset (Nat × Nat) := listedPairs g.vertexCount g.neighborList

/-- The edges in the order of the rows. -/
def edgeList (g : Graph) : List Edge :=
  g.vertices.flatMap fun u =>
    ((g.neighborList u).filter (u < ·)).map fun v => (Int.ofNat u, Int.ofNat v)

namespace WellFormed

variable {g : Graph} (wf : g.WellFormed)
include wf

theorem mem_edgePairs (u v : Nat) : (u, v) ∈ g.edgePairs ↔ u < v ∧ g.Adj u v := by
  simp only [edgePairs, listedPairs, Finset.mem_filter, Finset.mem_product, Finset.mem_range]
  constructor
  · exact fun h => h.2
  · exact fun h => ⟨⟨wf.lt_of_adj h.2, wf.lt_of_adj' h.2⟩, h⟩

theorem card_edgePairs : g.edgePairs.card = g.edgeCount := by
  have twice := sum_length_eq g.vertexCount g.neighborList
    (fun u _ => (wf.ascending' u).nodup) (fun u _ v hv => wf.lt_of_adj' hv)
    (fun u _ => wf.loopless u) (fun u _ v hv => wf.symmetric u v hv)
  have total := wf.length
  rw [wf.degrees_eq, wf.halves, vertices, twice] at total
  rw [edgePairs]
  omega

theorem edges_eq : g.edges = .ok g.edgeList := by
  have rows : (g.vertices.mapM fun u => do
      let ns ← g.row u
      return (ns.toList.filter (u < ·)).map fun v => (Int.ofNat u, Int.ofNat v)) =
      .ok (g.vertices.map fun u =>
        ((g.neighborList u).filter (u < ·)).map fun v => (Int.ofNat u, Int.ofNat v)) := by
    refine mapM_eq_map fun u hu => ?_
    rw [wf.row_eq (mem_vertices.mp hu)]
    rfl
  rw [edges, rows, edgeList, List.flatMap_def]
  rfl

theorem mem_edgeList (a b : Int) :
    (a, b) ∈ g.edgeList ↔ ∃ u v : Nat, a = u ∧ b = v ∧ u < v ∧ g.Adj u v := by
  simp only [edgeList, List.mem_flatMap, mem_vertices, List.mem_map, List.mem_filter,
    decide_eq_true_iff, Prod.mk.injEq]
  constructor
  · rintro ⟨u, -, v, ⟨hv, hlt⟩, rfl, rfl⟩
    exact ⟨u, v, rfl, rfl, hlt, hv⟩
  · rintro ⟨u, v, rfl, rfl, hlt, hv⟩
    exact ⟨u, wf.lt_of_adj hv, v, ⟨hv, hlt⟩, rfl, rfl⟩

theorem pairwise_edgeList : g.edgeList.Pairwise (Prod.Lex (· < ·) (· < ·)) := by
  rw [edgeList, List.flatMap_def, List.pairwise_flatten]
  constructor
  · intro l hl
    obtain ⟨u, -, rfl⟩ := List.mem_map.mp hl
    rw [List.pairwise_map]
    exact ((wf.ascending' u).filter _).imp fun h => Prod.Lex.right _ (Int.ofNat_lt.mpr h)
  · rw [List.pairwise_map, vertices]
    refine List.pairwise_lt_range.imp fun {u w} huw => ?_
    intro a ha b hb
    obtain ⟨_, -, rfl⟩ := List.mem_map.mp ha
    obtain ⟨_, -, rfl⟩ := List.mem_map.mp hb
    exact Prod.Lex.left _ _ (Int.ofNat_lt.mpr huw)

end WellFormed

end Motif.Graph
