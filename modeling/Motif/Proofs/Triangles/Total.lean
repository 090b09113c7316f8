import Motif.Proofs.Graph.Constructed
import Motif.Proofs.Intersection.Native
import Motif.Proofs.Triangles.Counting
import Motif.Proofs.Triangles.Mapped

/-!
# The number of triangles

Renumbering keeps the number of triangles, so whatever the options choose, the count is the number
of sets of three mutually adjacent vertices.
-/

set_option autoImplicit false

namespace Motif.Triangles

open Sorted Intersection

theorem countByIntersecting_renumbered {g : Graph} (wf : g.WellFormed) {r : Graph.Renumbered}
    (renumbers : g.Renumbers r) {intersect : Intersector} (counts : Counts intersect)
    (fits : (triangles g).card < sizeLimit) :
    countByIntersecting r.graph intersect = .ok (triangles g).card := by
  have same := card_triangles_renumbered wf renumbers
  rw [← same, card_triangles renumbers.wellFormed]
  refine countByIntersecting_eq renumbers.wellFormed counts ?_
  rw [← card_triangles renumbers.wellFormed, same]
  exact fits

/-- A graph is counted as it is, or densely under new ids. -/
theorem plan_spec {g : Graph} (wf : g.WellFormed) (nonempty : 0 < g.vertexCount)
    (options : Options) : ∃ plan, options.plan g = .ok plan ∧
      (plan.graph = g ∧ plan.oldIds? = none ∨
        plan.dense = true ∧ ∃ r, g.Renumbers r ∧ plan.graph = r.graph ∧
          plan.oldIds? = some r.oldIds) := by
  obtain ⟨r, made, renumbers⟩ := wf.renumberByDegree_spec
  have average : averageDegree g = .ok (g.edgeCount / g.vertexCount) :=
    divide_of_pos _ nonempty
  rw [Options.plan, average, ok_bind, made]
  by_cases dense : (decide (options.threshold ≤ g.edgeCount / g.vertexCount) &&
      options.renumber) = true
  · rw [if_pos dense]
    exact ⟨_, rfl, .inr ⟨(Bool.and_eq_true_iff.mp dense).1, r, renumbers, rfl, rfl⟩⟩
  · rw [if_neg dense]
    exact ⟨_, rfl, .inl ⟨rfl, rfl⟩⟩

theorem counts_portable (width : Width) : Counts (Strategy.portable width).size :=
  fun _ _ hu hv _ _ => size_eq width Kernels.counting_portable hu hv

theorem counts_detect (processor : Processor) : Counts (Strategy.detect processor).size :=
  fun _ _ hu hv _ _ => Strategy.size_detect processor hu hv

/-- Scanning, intersecting, and intersecting under new ids all count the triangles, so the options
only choose between ways to the same number. -/
theorem rankWith_total {g : Graph} (constructed : g.Constructed) (renumber : Bool)
    (threshold : Nat) {intersect : Intersector} (counts : Counts intersect)
    (fits : (triangles g).card < sizeLimit) :
    rankWith ⟨.total, renumber, threshold⟩ g intersect = .ok (.total (triangles g).card) ∧
      countByScanning g = .ok (triangles g).card ∧
      countByIntersecting g intersect = .ok (triangles g).card ∧
      ∃ r, g.renumberByDegree = .ok r ∧
        countByIntersecting r.graph intersect = .ok (triangles g).card := by
  have wf := constructed.wellFormed
  have listed := card_triangles wf
  have scanned : countByScanning g = .ok (triangles g).card :=
    listed ▸ countByScanning_eq wf (listed ▸ fits)
  have intersected : countByIntersecting g intersect = .ok (triangles g).card :=
    listed ▸ countByIntersecting_eq wf counts (listed ▸ fits)
  obtain ⟨r, made, renumbers⟩ := wf.renumberByDegree_spec
  refine ⟨?_, scanned, intersected, r, made,
    countByIntersecting_renumbered wf renumbers counts fits⟩
  rw [rankWith]
  split
  -- a graph without vertices is not planned, since it has no average degree
  case isTrue empty =>
    have none : g.vertexCount = 0 := by simpa [Graph.isEmpty, Graph.vertexCount] using empty
    have nothing : triangles g = ∅ := by
      rw [triangles, none]
      rfl
    rw [nothing]
    rfl
  case isFalse nonempty =>
    have some : 0 < g.vertexCount := by
      rw [Nat.pos_iff_ne_zero]
      simpa [Graph.isEmpty, Graph.vertexCount] using nonempty
    obtain ⟨plan, planned, choice⟩ := plan_spec wf some ⟨.total, renumber, threshold⟩
    rw [planned, ok_bind]
    rcases choice with ⟨same, -⟩ | ⟨dense, r, renumbers, same, -⟩
    · cases dense : plan.dense with
      | true => simp [same, intersected]
      | false => simp [same, scanned]
    · simp [same, dense, countByIntersecting_renumbered wf renumbers counts fits]

/-- Two triangles on one edge, and a vertex of degree one. -/
theorem rankWith_total_common_edge :
    ∃ g, Graph.ofEdges [(0, 1), (1, 2), (2, 0), (3, 1), (3, 2), (4, 1)] = .ok g ∧
      Counts (Strategy.portable .four).size ∧
      rankWith ⟨.total, true, 1⟩ g (Strategy.portable .four).size = .ok (.total 2) := by
  have made : Graph.ofEdges [(0, 1), (1, 2), (2, 0), (3, 1), (3, 2), (4, 1)] =
      .ok ⟨6, #[0, 2, 6, 9, 11, 12], #[1, 2, 0, 2, 3, 4, 0, 1, 3, 1, 2, 1],
        #[2, 4, 3, 2, 1]⟩ := by cbv
  have two : (triangles ⟨6, #[0, 2, 6, 9, 11, 12], #[1, 2, 0, 2, 3, 4, 0, 1, 3, 1, 2, 1],
      #[2, 4, 3, 2, 1]⟩).card = 2 := by decide +kernel
  have ranked := rankWith_total (.ofEdges made) true 1 (counts_portable .four)
    (by rw [two]; decide)
  rw [two] at ranked
  exact ⟨_, made, counts_portable .four, ranked.1⟩

end Motif.Triangles
