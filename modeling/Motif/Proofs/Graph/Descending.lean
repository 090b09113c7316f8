import Motif.Proofs.Graph.Canonical

/-!
# Graphs by descending degree

A graph whose vertices already go by descending degree is renumbered to itself: the order of
renumbering is strict, so only one arrangement of the vertices follows it. New ids always go by
descending degree, because the old ids were put in that order and kept their degrees. So renumbering
twice is renumbering once.
-/

set_option autoImplicit false

namespace Motif.Graph

open Sorted

theorem Precedes.asymm {g : Graph} {v w : Nat} (before : g.Precedes v w) : ¬ g.Precedes w v := by
  unfold Precedes at *
  omega

/-- The vertices go by descending degree, and by ascending id where degrees are equal. -/
def Descending (g : Graph) : Prop := g.vertices.Pairwise g.Precedes

/-- Only the degrees have to be compared: vertices are listed by ascending id. -/
theorem descending_iff {g : Graph} :
    g.Descending ↔ ∀ a b, a < b → b < g.vertexCount →
      (g.neighborList b).length ≤ (g.neighborList a).length := by
  rw [Descending, vertices, List.pairwise_iff_getElem]
  simp only [List.getElem_range, List.length_range, Precedes]
  constructor
  · intro descending a b hab hb
    have := descending a b (Nat.lt_trans hab hb) hb hab
    omega
  · intro descending a b ha hb hab
    have := descending a b hab hb
    omega

namespace Renumbers

variable {g : Graph} {r : Renumbered} (renumbers : g.Renumbers r)
include renumbers

/-- New ids keep the degrees of the old ones, which go by descending degree. -/
theorem descending : r.graph.Descending := by
  rw [descending_iff]
  intro a b hab hb
  rw [renumbers.vertexCount, ← renumbers.size_oldIds] at hb
  have ha : a < r.oldIds.size := Nat.lt_trans hab hb
  rw [renumbers.lists a _ (Array.getElem?_eq_getElem ha),
    renumbers.lists b _ (Array.getElem?_eq_getElem hb)]
  have before := List.pairwise_iff_getElem.mp renumbers.sorted a b ha hb hab
  rw [Array.getElem_toList, Array.getElem_toList] at before
  unfold Precedes at before
  omega

/-- A strict order has room for one arrangement only. -/
theorem oldIds_eq_vertices (descending : g.Descending) : r.oldIds.toList = g.vertices := by
  apply renumbers.permutes.eq_of_pairwise _ renumbers.sorted descending
  intro v w _ _ before after
  exact absurd after before.asymm

/-- Each vertex stays where it is, and so do the edges. -/
theorem graph_eq (wf : g.WellFormed) (descending : g.Descending) : r.graph = g := by
  have same := renumbers.oldIds_eq_vertices descending
  have keeps (a v : Nat) : r.oldIds[a]? = some v ↔ a < g.vertexCount ∧ a = v := by
    rw [← Array.getElem?_toList, same, vertices, List.getElem?_eq_some_iff]
    simp
  apply renumbers.wellFormed.eq_of_adj wf renumbers.vertexCount
  intro a b
  rw [renumbers.adj]
  constructor
  · rintro ⟨v, w, ha, hb, hvw⟩
    obtain ⟨-, rfl⟩ := (keeps a v).mp ha
    obtain ⟨-, rfl⟩ := (keeps b w).mp hb
    exact hvw
  · intro hab
    exact ⟨a, b, (keeps a a).mpr ⟨wf.lt_of_adj hab, rfl⟩, (keeps b b).mpr ⟨wf.lt_of_adj' hab, rfl⟩,
      hab⟩

end Renumbers

/-- Renumbering changes nothing exactly where there is nothing to change. -/
theorem WellFormed.renumberByDegree_eq_self_iff {g : Graph} (wf : g.WellFormed) :
    g.renumberByDegree = .ok ⟨g, g.vertices.toArray⟩ ↔ g.Descending := by
  obtain ⟨r, made, renumbers⟩ := wf.renumberByDegree_spec
  rw [made, Except.ok.injEq]
  constructor
  · rintro rfl
    exact renumbers.descending
  · intro descending
    have ids : r.oldIds = g.vertices.toArray := by
      rw [← renumbers.oldIds_eq_vertices descending]
    rw [← ids, ← renumbers.graph_eq wf descending]

/-- Renumbering a graph that was renumbered before gives it back in all its parts, and every vertex
keeps its id. -/
theorem renumberByDegree_idempotent {g : Graph} (constructed : g.Constructed) :
    ∃ r again, g.renumberByDegree = .ok r ∧ r.graph.renumberByDegree = .ok again ∧
      again.graph = r.graph ∧ again.oldIds.toList = List.range g.vertexCount := by
  obtain ⟨r, made, renumbers⟩ := constructed.wellFormed.renumberByDegree_spec
  have fixed := renumbers.wellFormed.renumberByDegree_eq_self_iff.mpr renumbers.descending
  exact ⟨r, _, made, fixed, rfl, by rw [vertices, renumbers.vertexCount]⟩

/-- Two vertices share degree four and two share degree two, so ties decide in both rounds. -/
theorem renumberByDegree_idempotent_strip : ∃ g r again,
    ofEdges [(0, 1), (0, 2), (1, 2), (2, 3), (2, 4), (1, 3), (3, 4), (3, 5)] = .ok g ∧
      g.renumberByDegree = .ok r ∧ r.oldIds = #[2, 3, 1, 0, 4, 5] ∧
      r.graph.renumberByDegree = .ok again ∧ again.graph = r.graph ∧
      again.oldIds = #[0, 1, 2, 3, 4, 5] := by
  have made : ofEdges [(0, 1), (0, 2), (1, 2), (2, 3), (2, 4), (1, 3), (3, 4), (3, 5)] =
      .ok ⟨8, #[0, 2, 5, 9, 13, 15, 16], #[1, 2, 0, 2, 3, 0, 1, 3, 4, 1, 2, 4, 5, 2, 3, 3],
        #[2, 3, 4, 4, 2, 1]⟩ := by cbv
  have ids : (·.oldIds) <$> renumberByDegree ⟨8, #[0, 2, 5, 9, 13, 15, 16],
      #[1, 2, 0, 2, 3, 0, 1, 3, 4, 1, 2, 4, 5, 2, 3, 3], #[2, 3, 4, 4, 2, 1]⟩ =
      .ok #[2, 3, 1, 0, 4, 5] := by cbv
  obtain ⟨r, again, first, second, same, kept⟩ := renumberByDegree_idempotent (.ofEdges made)
  rw [first] at ids
  exact ⟨_, r, again, made, first, Except.ok.inj ids, second, same, Array.toList_inj.mp kept⟩

end Motif.Graph
