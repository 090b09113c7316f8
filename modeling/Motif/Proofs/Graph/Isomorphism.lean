import Motif.Proofs.Graph.Constructed

/-!
# What renumbering keeps

Read from outside, a renumbered graph is compressed rows that fit together, sorted by degree, and
its old ids carry degrees and edges back to the graph it was made from.
-/

set_option autoImplicit false

namespace Motif.Graph

open Sorted

/-- Rows that fit together: located by the sums of their lengths, ascending, without loops, and
listing every edge at both of its ends. -/
structure Compressed (g : Graph) : Prop where
  offsets : g.rowOffsets = (sums g.degrees.toList).toArray
  last : g.rowOffsets[g.vertexCount]? = some (2 * g.edgeCount)
  length : g.neighbors.size = 2 * g.edgeCount
  rows : ∀ v < g.vertexCount, ∃ ns, g.neighborsOf v = .ok ns ∧ g.degreeOf v = .ok ns.size ∧
    Ascending ns.toList ∧ v ∉ ns ∧ ∀ w ∈ ns, ∃ ms, g.neighborsOf w = .ok ms ∧ v ∈ ms

theorem WellFormed.compressed {g : Graph} (wf : g.WellFormed) : g.Compressed where
  offsets := wf.offsets
  last := by rw [wf.rowOffsets_last, wf.halves]
  length := wf.halves
  rows := by
    intro v hv
    refine ⟨_, wf.neighborsOf_eq hv, wf.degreeOf_eq hv, wf.ascending v hv, ?_, ?_⟩
    · rw [List.mem_toArray]
      exact wf.loopless v
    · intro w hw
      have adj : g.Adj v w := List.mem_toArray.mp hw
      refine ⟨_, wf.neighborsOf_eq (wf.lt_of_adj' adj), ?_⟩
      rw [List.mem_toArray]
      exact wf.symmetric v w adj

/-- A vertex goes before another if its degree is higher, or the same and its id lower. -/
def DegreeBefore (g : Graph) (v w : Nat) : Prop :=
  ∃ d e, g.degreeOf v = .ok d ∧ g.degreeOf w = .ok e ∧ (e < d ∨ d = e ∧ v < w)

namespace Renumbers

variable {g : Graph} {r : Renumbered} (wf : g.WellFormed) (renumbers : g.Renumbers r)
include wf renumbers

theorem pairwise_degreeBefore : r.oldIds.toList.Pairwise g.DegreeBefore := by
  refine List.Pairwise.imp_of_mem ?_ renumbers.sorted
  intro v w hv hw before
  exact ⟨_, _, wf.degreeOf_eq (renumbers.mem_oldIds.mp hv),
    wf.degreeOf_eq (renumbers.mem_oldIds.mp hw), before⟩

omit wf in
theorem lt_of_oldIds {a v : Nat} (ha : r.oldIds[a]? = some v) :
    a < r.graph.vertexCount ∧ v < g.vertexCount := by
  constructor
  · rw [renumbers.vertexCount, ← renumbers.size_oldIds]
    exact (Array.getElem?_eq_some_iff.mp ha).1
  · apply renumbers.mem_oldIds.mp
    exact Array.mem_toList_iff.mpr (Array.mem_of_getElem? ha)

theorem degreeOf_eq {a v : Nat} (ha : r.oldIds[a]? = some v) :
    ∃ d, r.graph.degreeOf a = .ok d ∧ g.degreeOf v = .ok d := by
  obtain ⟨inside, inside'⟩ := renumbers.lt_of_oldIds ha
  refine ⟨_, renumbers.wellFormed.degreeOf_eq inside, ?_⟩
  rw [renumbers.lists a v ha]
  exact wf.degreeOf_eq inside'

theorem hasEdge_eq {a b v w : Nat} (ha : r.oldIds[a]? = some v) (hb : r.oldIds[b]? = some w) :
    ∃ joined, r.graph.hasEdge a b = .ok joined ∧ g.hasEdge v w = .ok joined := by
  obtain ⟨inside, inside'⟩ := renumbers.lt_of_oldIds ha
  refine ⟨_, renumbers.wellFormed.hasEdge_eq_adj inside b, ?_⟩
  rw [wf.hasEdge_eq_adj inside', Except.ok.injEq, decide_eq_decide, renumbers.adj]
  constructor
  · intro hvw
    exact ⟨v, w, ha, hb, hvw⟩
  · rintro ⟨v', w', ha', hb', hvw⟩
    rw [ha, Option.some.injEq] at ha'
    rw [hb, Option.some.injEq] at hb'
    rw [ha', hb']
    exact hvw

end Renumbers

/-- Renumbering always succeeds. The old ids are all vertices by descending degree, equal degrees by
ascending id; the new rows fit together; and the old ids of new ones have their degrees and edges. -/
theorem renumberByDegree_isomorphic {g : Graph} (constructed : g.Constructed) :
    ∃ r, g.renumberByDegree = .ok r ∧
      r.oldIds.toList.Perm (List.range g.vertexCount) ∧
      r.oldIds.toList.Pairwise g.DegreeBefore ∧
      r.graph.Compressed ∧
      r.graph.vertexCount = g.vertexCount ∧
      r.graph.edgeCount = g.edgeCount ∧
      (∀ a v : Nat, r.oldIds[a]? = some v →
        ∃ d, r.graph.degreeOf a = .ok d ∧ g.degreeOf v = .ok d) ∧
      ∀ a b v w : Nat, r.oldIds[a]? = some v → r.oldIds[b]? = some w →
        ∃ joined, r.graph.hasEdge a b = .ok joined ∧ g.hasEdge v w = .ok joined := by
  have wf := constructed.wellFormed
  obtain ⟨r, made, renumbers⟩ := wf.renumberByDegree_spec
  refine ⟨r, made, renumbers.permutes, renumbers.pairwise_degreeBefore wf,
    renumbers.wellFormed.compressed, renumbers.vertexCount, renumbers.edgeCount, ?_, ?_⟩
  · intro a v ha
    exact renumbers.degreeOf_eq wf ha
  · intro a b v w ha hb
    exact renumbers.hasEdge_eq wf ha hb

/-- The new ids are a cycle of four old ones: vertex `0` of the new graph was `2`, and `2` was `1`. -/
theorem renumberByDegree_isomorphic_strip : ∃ g r,
    ofEdges [(0, 1), (0, 2), (1, 2), (2, 3), (2, 4), (1, 3), (3, 4), (3, 5)] = .ok g ∧
      g.renumberByDegree = .ok r ∧
      r.oldIds = #[2, 3, 1, 0, 4, 5] ∧
      r.oldIds.toList.Pairwise g.DegreeBefore ∧
      r.graph.Compressed ∧
      (∃ d, r.graph.degreeOf 2 = .ok d ∧ g.degreeOf 1 = .ok d) ∧
      ∃ joined, r.graph.hasEdge 0 3 = .ok joined ∧ g.hasEdge 2 0 = .ok joined := by
  have made : ofEdges [(0, 1), (0, 2), (1, 2), (2, 3), (2, 4), (1, 3), (3, 4), (3, 5)] =
      .ok ⟨8, #[0, 2, 5, 9, 13, 15, 16], #[1, 2, 0, 2, 3, 0, 1, 3, 4, 1, 2, 4, 5, 2, 3, 3],
        #[2, 3, 4, 4, 2, 1]⟩ := by cbv
  have renumbered : renumberByDegree ⟨8, #[0, 2, 5, 9, 13, 15, 16],
      #[1, 2, 0, 2, 3, 0, 1, 3, 4, 1, 2, 4, 5, 2, 3, 3], #[2, 3, 4, 4, 2, 1]⟩ =
      .ok ⟨⟨8, #[0, 4, 8, 11, 13, 15, 16], #[1, 2, 3, 4, 0, 2, 4, 5, 0, 1, 3, 0, 2, 0, 1, 1],
        #[4, 4, 3, 2, 2, 1]⟩, #[2, 3, 1, 0, 4, 5]⟩ := by cbv
  obtain ⟨r, run, -, sorted, rows, -, -, degrees, edges⟩ :=
    renumberByDegree_isomorphic (.ofEdges made)
  have same := run.symm.trans renumbered
  rw [Except.ok.injEq] at same
  subst same
  exact ⟨_, _, made, run, rfl, sorted, rows, degrees 2 1 rfl, edges 0 3 2 0 rfl rfl⟩

end Motif.Graph
