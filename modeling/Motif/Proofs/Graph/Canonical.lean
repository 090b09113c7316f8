import Motif.Proofs.Graph.Constructed

/-!
# One graph for one adjacency

The rows of a well-formed graph are ascending, so which vertices are adjacent says what they are.
Offsets and degrees are told by the rows, and the rows hold every edge twice. So two graphs are
equal as soon as they have the same vertices and answer alike, whichever way each was made.
-/

set_option autoImplicit false

namespace Motif.Graph

open Sorted

namespace WellFormed

variable {g h : Graph} (wf : g.WellFormed) (wf' : h.WellFormed)
include wf wf'

theorem neighborList_eq_of_adj {v : Nat} (adj : ∀ w, g.Adj v w ↔ h.Adj v w) :
    g.neighborList v = h.neighborList v :=
  List.Pairwise.eq_of_mem_iff (wf.ascending' v) (wf'.ascending' v) adj

/-- The edges are told without the vertices, so graphs of different sizes may tell the same. -/
theorem edgeList_eq_of_adj (adj : ∀ v w, g.Adj v w ↔ h.Adj v w) : g.edgeList = h.edgeList := by
  apply List.Pairwise.eq_of_mem_iff wf.pairwise_edgeList wf'.pairwise_edgeList
  rintro ⟨a, b⟩
  simp only [wf.mem_edgeList, wf'.mem_edgeList, adj]

theorem eq_of_adj (count : g.vertexCount = h.vertexCount)
    (adj : ∀ v w, g.Adj v w ↔ h.Adj v w) : g = h := by
  have lists : g.vertices.map g.neighborList = h.vertices.map h.neighborList := by
    rw [vertices, vertices, count]
    exact List.map_congr_left fun v _ => wf.neighborList_eq_of_adj wf' (adj v)
  have twice {k : Graph} (wf : k.WellFormed) :
      2 * k.edgeCount = ((k.vertices.map k.neighborList).map List.length).sum := by
    rw [← wf.halves, wf.length, wf.degrees_eq, List.map_map]
    rfl
  have edges : g.edgeCount = h.edgeCount := by
    have both := twice wf
    rw [lists, ← twice wf'] at both
    exact Nat.eq_of_mul_eq_mul_left Nat.two_pos both
  calc g = ofLists g.edgeCount (g.vertices.map g.neighborList) := wf.eq_ofLists
    _ = ofLists h.edgeCount (h.vertices.map h.neighborList) := by rw [edges, lists]
    _ = h := wf'.eq_ofLists.symm

/-- Pairs of numbers that are no vertices are adjacent in neither graph. -/
theorem eq_of_hasEdge (count : g.vertexCount = h.vertexCount)
    (edges : ∀ u v : Nat, u < g.vertexCount → v < g.vertexCount →
      g.hasEdge u v = h.hasEdge u v) : g = h := by
  apply wf.eq_of_adj wf' count
  intro u v
  by_cases inside : u < g.vertexCount ∧ v < g.vertexCount
  · have same := edges u v inside.1 inside.2
    rw [wf.hasEdge_eq_adj inside.1, wf'.hasEdge_eq_adj (count ▸ inside.1), Except.ok.injEq,
      decide_eq_decide] at same
    exact same
  · constructor
    · intro hadj
      exact absurd ⟨wf.lt_of_adj hadj, wf.lt_of_adj' hadj⟩ inside
    · intro hadj
      rw [count] at inside
      exact absurd ⟨wf'.lt_of_adj hadj, wf'.lt_of_adj' hadj⟩ inside

end WellFormed

/-- The largest id in a list of edges. -/
def maxId? (edges : List Edge) : Option Int := (edges.flatMap fun e => [e.1, e.2]).max?

/-- The unordered pairs that a list joins, loops left out. -/
def joinedPairs (edges : List Edge) : Finset (Sym2 Int) :=
  (edges.map fun e => s(e.1, e.2)).toFinset.filter fun p => ¬ p.IsDiag

theorem mem_joinedPairs {edges : List Edge} {a b : Int} :
    s(a, b) ∈ joinedPairs edges ↔ a ≠ b ∧ ((a, b) ∈ edges ∨ (b, a) ∈ edges) := by
  simp only [joinedPairs, Finset.mem_filter, List.mem_toFinset, List.mem_map, Prod.exists,
    Sym2.mk_isDiag_iff, Sym2.eq_iff]
  constructor
  · rintro ⟨⟨c, d, listed, ⟨rfl, rfl⟩ | ⟨rfl, rfl⟩⟩, distinct⟩
    · exact ⟨distinct, .inl listed⟩
    · exact ⟨distinct, .inr listed⟩
  · rintro ⟨distinct, listed | listed⟩
    · exact ⟨⟨a, b, listed, .inl ⟨rfl, rfl⟩⟩, distinct⟩
    · exact ⟨⟨b, a, listed, .inr ⟨rfl, rfl⟩⟩, distinct⟩

theorem joinedPairs_append (xs ys : List Edge) :
    joinedPairs (xs ++ ys) = joinedPairs xs ∪ joinedPairs ys := by
  rw [joinedPairs, List.map_append, List.toFinset_append, Finset.filter_union]
  rfl

section Built

variable {edges edges' : List Edge} {g h : Graph} (made : ofEdges edges = .ok g)
include made

/-- The ids of a graph end with the largest one of its list. -/
theorem maxId?_of_ofEdges : maxId? edges = some ((g.vertexCount : Int) - 1) := by
  obtain ⟨nonempty, built⟩ := ofEdges_eq_ok_iff.mp made
  have valid := (build_eq_ok_iff.mp built).1
  have count : g.vertexCount = idBound edges := by
    rw [vertexCount_of_build built, Nat.max_zero]
  have some : edges.toFinset.Nonempty := by
    rw [List.toFinset_nonempty_iff]
    exact nonempty
  obtain ⟨e, he, bound⟩ := Finset.exists_mem_eq_sup edges.toFinset some
    fun e : Edge => (max e.1 e.2).toNat + 1
  have he := List.mem_toFinset.mp he
  have ends := valid e he
  change idBound edges = (max e.1 e.2).toNat + 1 at bound
  rw [maxId?, List.max?_eq_some_iff]
  simp only [List.mem_flatMap, List.mem_cons, List.not_mem_nil, or_false]
  constructor
  · refine ⟨e, he, ?_⟩
    omega
  · rintro b ⟨e', he', hb⟩
    have below := lt_idBound he'
    have := valid e' he'
    omega

theorem adj_iff_mem_joinedPairs (v w : Nat) :
    g.Adj v w ↔ s((v : Int), (w : Int)) ∈ joinedPairs edges := by
  rw [mem_joinedPairs, adj_of_build (ofEdges_eq_ok_iff.mp made).2, Nat.cast_injective.ne_iff,
    ne_comm]
  rfl

theorem joinedPairs_subset (made' : ofEdges edges' = .ok h)
    (adj : ∀ v w, g.Adj v w → h.Adj v w) : joinedPairs edges ⊆ joinedPairs edges' := by
  have valid := (build_eq_ok_iff.mp (ofEdges_eq_ok_iff.mp made).2).1
  intro p hp
  induction p with
  | h a b =>
    have nonneg : 0 ≤ a ∧ 0 ≤ b := by
      rcases (mem_joinedPairs.mp hp).2 with listed | listed
      · exact ⟨(valid _ listed).1.1, (valid _ listed).2.1⟩
      · exact ⟨(valid _ listed).2.1, (valid _ listed).1.1⟩
    obtain ⟨v, rfl⟩ := Int.eq_ofNat_of_zero_le nonneg.1
    obtain ⟨w, rfl⟩ := Int.eq_ofNat_of_zero_le nonneg.2
    exact (adj_iff_mem_joinedPairs made' v w).mp (adj v w ((adj_iff_mem_joinedPairs made v w).mpr hp))

end Built

/-- Graphs are equal exactly when they have the same vertices and the same edges between them; those
of two edge lists are when the lists have the same largest id and join the same pairs, in whichever
order, direction and number. -/
theorem eq_iff_hasEdge_eq {g h : Graph} (made : g.Constructed) (made' : h.Constructed) :
    (g = h ↔ g.vertexCount = h.vertexCount ∧
      ∀ u v : Nat, u < g.vertexCount → v < g.vertexCount → g.hasEdge u v = h.hasEdge u v) ∧
    ∀ edges edges', ofEdges edges = .ok g → ofEdges edges' = .ok h →
      (g = h ↔ maxId? edges = maxId? edges' ∧ joinedPairs edges = joinedPairs edges') := by
  have wf := made.wellFormed
  have wf' := made'.wellFormed
  refine ⟨⟨?_, fun ⟨count, edges⟩ => wf.eq_of_hasEdge wf' count edges⟩, ?_⟩
  · rintro rfl
    exact ⟨rfl, fun _ _ _ _ => rfl⟩
  · intro edges edges' list list'
    have largest := maxId?_of_ofEdges list
    have largest' := maxId?_of_ofEdges list'
    constructor
    · rintro rfl
      refine ⟨largest.trans largest'.symm, Finset.Subset.antisymm ?_ ?_⟩
      · exact joinedPairs_subset list list' fun _ _ => id
      · exact joinedPairs_subset list' list fun _ _ => id
    · rintro ⟨ids, pairs⟩
      rw [largest, largest', Option.some.injEq] at ids
      apply wf.eq_of_adj wf' (by omega)
      intro v w
      rw [adj_iff_mem_joinedPairs list, adj_iff_mem_joinedPairs list', pairs]

/-- A star with a chord: from a list, from one in another order with a loop and a repetition, and by
renumbering the star around `3`. -/
theorem eq_iff_hasEdge_eq_star : ∃ g h k r,
    ofEdges [(0, 1), (0, 2), (1, 2), (0, 3)] = .ok g ∧
      ofEdges [(3, 0), (2, 1), (1, 0), (1, 1), (2, 0), (0, 1)] = .ok h ∧
      ofEdges [(3, 0), (3, 1), (3, 2), (0, 1)] = .ok k ∧ k.renumberByDegree = .ok r ∧
      g = h ∧ h = r.graph := by
  have first : ofEdges [(0, 1), (0, 2), (1, 2), (0, 3)] =
      .ok ⟨4, #[0, 3, 5, 7, 8], #[1, 2, 3, 0, 2, 0, 1, 0], #[3, 2, 2, 1]⟩ := by cbv
  have second : ofEdges [(3, 0), (2, 1), (1, 0), (1, 1), (2, 0), (0, 1)] =
      .ok ⟨4, #[0, 3, 5, 7, 8], #[1, 2, 3, 0, 2, 0, 1, 0], #[3, 2, 2, 1]⟩ := by cbv
  have star : ofEdges [(3, 0), (3, 1), (3, 2), (0, 1)] =
      .ok ⟨4, #[0, 2, 4, 5, 8], #[1, 3, 0, 3, 3, 0, 1, 2], #[2, 2, 1, 3]⟩ := by cbv
  have turned : renumberByDegree ⟨4, #[0, 2, 4, 5, 8], #[1, 3, 0, 3, 3, 0, 1, 2], #[2, 2, 1, 3]⟩ =
      .ok ⟨⟨4, #[0, 3, 5, 7, 8], #[1, 2, 3, 0, 2, 0, 1, 0], #[3, 2, 2, 1]⟩, #[3, 0, 1, 2]⟩ := by cbv
  have lists := (eq_iff_hasEdge_eq (.ofEdges first) (.ofEdges second)).2 _ _ first second
  have answers := (eq_iff_hasEdge_eq (.ofEdges second) (.renumbered (.ofEdges star) turned)).1
  exact ⟨_, _, _, _, first, second, star, turned, lists.mpr ⟨by decide, by decide⟩,
    answers.mpr ⟨rfl, fun _ _ _ _ => rfl⟩⟩

end Motif.Graph
