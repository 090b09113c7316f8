import Motif.Triangles
import Motif.Proofs.Graph.WellFormed

/-!
# Listing triangles

A triangle is a set of three mutually adjacent vertices. Written with its vertices in descending
order `u > v > w` it is found exactly once by going through the rows: `v` in the row of `u` below
`u`, and `w` in both rows below `v`.
-/

set_option autoImplicit false

namespace Motif.Triangles

open Sorted

/-- The unordered triples of mutually adjacent vertices. -/
def triangles (g : Graph) : Finset (Finset Nat) :=
  ((Finset.range g.vertexCount).powersetCard 3).filter fun s =>
    ∀ v ∈ s, ∀ w ∈ s, v ≠ w → g.Adj v w

theorem mem_triangles {g : Graph} {s : Finset Nat} :
    s ∈ triangles g ↔ (∀ v ∈ s, v < g.vertexCount) ∧ s.card = 3 ∧
      ∀ v ∈ s, ∀ w ∈ s, v ≠ w → g.Adj v w := by
  simp [triangles, Finset.mem_powersetCard, Finset.subset_iff, and_assoc]

/-- The neighbors of a vertex below it. -/
def lowerList (g : Graph) (v : Nat) : List Nat := (g.neighborList v).filter (· < v)

theorem mem_lowerList {g : Graph} {v w : Nat} : w ∈ lowerList g v ↔ w < v ∧ g.Adj v w := by
  rw [lowerList, List.mem_filter, decide_eq_true_iff, and_comm]
  rfl

/-- What closes the edge from `u` down to `v` to a triangle, from below. -/
def closers (g : Graph) (u v : Nat) : List Nat :=
  (g.neighborList u).filter (· ∈ lowerList g v)

/-- Every triangle once, its vertices in descending order. -/
def tripleList (g : Graph) : List (Nat × Nat × Nat) :=
  g.vertices.flatMap fun u => (lowerList g u).flatMap fun v =>
    (closers g u v).map fun w => (u, v, w)

/-- How many triangles have `u > v` for their two largest vertices, summed over all pairs. -/
theorem length_tripleList (g : Graph) :
    (tripleList g).length =
      (g.vertices.map fun u => ((lowerList g u).map fun v => (closers g u v).length).sum).sum := by
  simp [tripleList, List.length_flatMap]

variable {g : Graph} (wf : g.WellFormed)
include wf

theorem ascending_lowerList (v : Nat) : Ascending (lowerList g v) :=
  (wf.ascending' v).filter _

theorem mem_tripleList {u v w : Nat} :
    (u, v, w) ∈ tripleList g ↔ w < v ∧ v < u ∧ g.Adj u v ∧ g.Adj u w ∧ g.Adj v w := by
  simp only [tripleList, closers, List.mem_flatMap, List.mem_map, List.mem_filter,
    decide_eq_true_eq, mem_lowerList, Graph.mem_vertices, Prod.mk.injEq]
  constructor
  · rintro ⟨_, _, _, ⟨hvu, huv⟩, _, ⟨huw, hwv, hvw⟩, rfl, rfl, rfl⟩
    exact ⟨hwv, hvu, huv, huw, hvw⟩
  · rintro ⟨hwv, hvu, huv, huw, hvw⟩
    exact ⟨u, wf.lt_of_adj huv, v, ⟨hvu, huv⟩, w, ⟨huw, hwv, hvw⟩, rfl, rfl, rfl⟩

theorem nodup_tripleList : (tripleList g).Nodup := by
  rw [tripleList, List.nodup_flatMap]
  refine ⟨fun u _ => ?_, List.nodup_range.imp fun {u u'} hne t ht ht' => ?_⟩
  · rw [List.nodup_flatMap]
    refine ⟨fun v _ => ?_, (ascending_lowerList wf u).nodup.imp fun {v v'} hne t ht ht' => ?_⟩
    · refine List.Nodup.map ?_ ((wf.ascending' u).nodup.filter _)
      intro w w' same
      simpa using same
    · obtain ⟨_, -, rfl⟩ := List.mem_map.mp ht
      obtain ⟨_, -, same⟩ := List.mem_map.mp ht'
      exact hne (Prod.mk.inj (Prod.mk.inj same).2).1.symm
  · obtain ⟨_, -, ht⟩ := List.mem_flatMap.mp ht
    obtain ⟨_, -, rfl⟩ := List.mem_map.mp ht
    obtain ⟨_, -, ht'⟩ := List.mem_flatMap.mp ht'
    obtain ⟨_, -, same⟩ := List.mem_map.mp ht'
    exact hne (Prod.mk.inj same).1.symm

omit wf in
/-- The vertices of a triple. -/
def members (t : Nat × Nat × Nat) : Finset Nat := {t.1, t.2.1, t.2.2}

omit wf in
/-- Three distinct numbers in descending order. -/
theorem exists_descending {s : Finset Nat} (three : s.card = 3) :
    ∃ u v w, w < v ∧ v < u ∧ s = members (u, v, w) := by
  have sorted := Finset.sortedGT_sort s
  have whole := Finset.sort_toFinset s (· ≥ ·)
  obtain ⟨u, v, w, list⟩ := List.length_eq_three.mp ((Finset.length_sort (s := s) (· ≥ ·)).trans three)
  rw [list] at sorted whole
  have descending := sorted.pairwise
  simp only [List.pairwise_cons, List.mem_cons, List.not_mem_nil, or_false] at descending
  exact ⟨u, v, w, descending.2.1 w rfl, descending.1 v (.inl rfl), by simp [← whole, members]⟩

omit wf in
theorem members_inj {u v w u' v' w' : Nat} (hwv : w < v) (hvu : v < u) (hwv' : w' < v')
    (hvu' : v' < u') (same : members (u, v, w) = members (u', v', w')) :
    (u, v, w) = (u', v', w') := by
  have mem (x : Nat) : (x = u ∨ x = v ∨ x = w) ↔ (x = u' ∨ x = v' ∨ x = w') := by
    simpa [members] using Finset.ext_iff.mp same x
  have hu := (mem u).mp (.inl rfl)
  have hv := (mem v).mp (.inr (.inl rfl))
  have hw := (mem w).mp (.inr (.inr rfl))
  rw [Prod.mk.injEq, Prod.mk.injEq]
  omega

theorem image_tripleList : (tripleList g).toFinset.image members = triangles g := by
  ext s
  rw [Finset.mem_image, mem_triangles]
  constructor
  · rintro ⟨⟨u, v, w⟩, ht, rfl⟩
    obtain ⟨hwv, hvu, huv, huw, hvw⟩ := (mem_tripleList wf).mp (List.mem_toFinset.mp ht)
    have hvu' := wf.symmetric u v huv
    have hwu := wf.symmetric u w huw
    have hwv' := wf.symmetric v w hvw
    refine ⟨?_, ?_, ?_⟩
    · simp only [members, Finset.mem_insert, Finset.mem_singleton]
      rintro x (rfl | rfl | rfl)
      · exact wf.lt_of_adj huv
      · exact wf.lt_of_adj hvu'
      · exact wf.lt_of_adj hwu
    · exact Finset.card_eq_three.mpr ⟨u, v, w, by omega, by omega, by omega, rfl⟩
    · simp only [members, Finset.mem_insert, Finset.mem_singleton]
      rintro x (rfl | rfl | rfl) y (rfl | rfl | rfl) hne
      all_goals first | assumption | exact absurd rfl hne
  · rintro ⟨-, three, adjacent⟩
    obtain ⟨u, v, w, hwv, hvu, rfl⟩ := exists_descending three
    simp only [members, Finset.mem_insert, Finset.mem_singleton] at adjacent
    refine ⟨(u, v, w), List.mem_toFinset.mpr ((mem_tripleList wf).mpr ⟨hwv, hvu, ?_, ?_, ?_⟩), rfl⟩
    · exact adjacent u (by simp) v (by simp) (by omega)
    · exact adjacent u (by simp) w (by simp) (by omega)
    · exact adjacent v (by simp) w (by simp) (by omega)

theorem members_injOn : Set.InjOn members {t | t ∈ tripleList g} := by
  rintro ⟨u, v, w⟩ ht ⟨u', v', w'⟩ ht' same
  have ht := (mem_tripleList wf).mp ht
  have ht' := (mem_tripleList wf).mp ht'
  exact members_inj ht.1 ht.2.1 ht'.1 ht'.2.1 same

/-- The list holds each triangle once. -/
theorem card_triangles : (triangles g).card = (tripleList g).length := by
  rw [← image_tripleList wf, Finset.card_image_of_injOn,
    List.toFinset_card_of_nodup (nodup_tripleList wf)]
  exact (members_injOn wf).mono fun t ht => List.mem_toFinset.mp ht

end Motif.Triangles
