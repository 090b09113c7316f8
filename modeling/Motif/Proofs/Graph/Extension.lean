import Motif.Proofs.Graph.Canonical
import Motif.Proofs.Graph.Refusal

/-!
# Building on a graph

A graph can be built again from what it tells of itself, with more behind it. Its neighbor lists keep
all of it. Its list of edges drops the vertices that no edge reaches, so a graph built from it may end
earlier than one built from all that was given, and it does so exactly when the largest id was only in
a loop.
-/

set_option autoImplicit false

namespace Motif.Graph

open Sorted

/-- The neighbors of each vertex as ids. -/
def adjacencyLists (g : Graph) : List (List Int) :=
  g.vertices.map fun v => (g.neighborList v).map Int.ofNat

@[simp] theorem length_adjacencyLists (g : Graph) : g.adjacencyLists.length = g.vertexCount := by
  simp [adjacencyLists, vertices]

theorem getElem?_adjacencyLists (g : Graph) {v : Nat} (hv : v < g.vertexCount) :
    g.adjacencyLists[v]? = some ((g.neighborList v).map Int.ofNat) := by
  simp [adjacencyLists, vertices, hv]

theorem mem_flatten_adjacencyLists {g : Graph} {id : Int} (hid : id ∈ g.adjacencyLists.flatten) :
    ∃ v w : Nat, id = w ∧ g.Adj v w := by
  simp only [adjacencyLists, List.mem_flatten, List.mem_map] at hid
  obtain ⟨_, ⟨v, -, rfl⟩, hid⟩ := hid
  obtain ⟨w, hw, rfl⟩ := List.mem_map.mp hid
  exact ⟨v, w, rfl, hw⟩

namespace WellFormed

variable {g : Graph} (wf : g.WellFormed)
include wf

theorem adjacency_eq : g.adjacency = .ok g.adjacencyLists := by
  apply mapM_eq_map
  intro v hv
  rw [wf.row_eq (mem_vertices.mp hv)]
  rfl

theorem length_flatten_adjacencyLists : g.adjacencyLists.flatten.length = g.neighbors.size := by
  rw [List.length_flatten, wf.length, wf.degrees_eq]
  simp [adjacencyLists, Function.comp_def]

theorem lists_adjacencyLists_append (more : List (List Int)) (a b : Nat) :
    Lists (g.adjacencyLists ++ more) a b ↔
      g.Adj a b ∨ g.vertexCount ≤ a ∧ Lists more (a - g.vertexCount) b := by
  unfold Lists
  by_cases inside : a < g.vertexCount
  · rw [List.getElem?_append_left (by simpa using inside), g.getElem?_adjacencyLists inside,
      or_iff_left fun h => Nat.not_le.mpr inside h.1]
    constructor
    · rintro ⟨_, ⟨⟩, hb⟩
      exact (List.mem_map_of_injective Int.ofNat_injective).mp hb
    · intro adj
      exact ⟨_, rfl, List.mem_map_of_mem adj⟩
  · rw [List.getElem?_append_right (by simpa using inside), length_adjacencyLists,
      or_iff_right fun adj => inside (wf.lt_of_adj adj), and_iff_right (Nat.not_lt.mp inside)]

/-- All entries of the neighbor lists are vertices. -/
theorem entryBound_adjacencyLists_append (more : List (List Int)) :
    max (g.adjacencyLists ++ more).length (entryBound (g.adjacencyLists ++ more)) =
      max (g.vertexCount + more.length) (entryBound more) := by
  have entries : entryBound g.adjacencyLists ≤ g.vertexCount := by
    apply Finset.sup_le
    intro id hid
    obtain ⟨v, w, rfl, adj⟩ := mem_flatten_adjacencyLists (List.mem_toFinset.mp hid)
    exact wf.lt_of_adj' adj
  have split : entryBound (g.adjacencyLists ++ more) =
      max (entryBound g.adjacencyLists) (entryBound more) := by
    rw [entryBound, List.flatten_append, List.toFinset_append, Finset.sup_union]
    rfl
  rw [split, List.length_append, length_adjacencyLists]
  omega

end WellFormed

section Appended

variable {g h : Graph} {more : List (List Int)} (wf : g.WellFormed)
include wf

theorem exists_ofAdjacency_append (valid : ∀ id ∈ more.flatten, 0 ≤ id ∧ id < largestId)
    (few : ((g.vertexCount + more.length : Nat) : Int) ≤ largestId)
    (room : 2 * (g.neighbors.size + more.flatten.length) < sizeLimit) :
    ∃ h, ofAdjacency (g.adjacencyLists ++ more) = .ok h := by
  have good : ∀ id ∈ (g.adjacencyLists ++ more).flatten, 0 ≤ id ∧ id < largestId := by
    intro id hid
    rw [List.flatten_append, List.mem_append] at hid
    rcases hid with hid | hid
    · obtain ⟨v, w, rfl, adj⟩ := mem_flatten_adjacencyLists hid
      have := wf.lt_of_adj' adj
      omega
    · exact valid id hid
  have few' : ((g.adjacencyLists ++ more).length : Int) ≤ largestId := by simpa using few
  have room' : 2 * (g.adjacencyLists ++ more).flatten.length < sizeLimit := by
    rw [List.flatten_append, List.length_append, wf.length_flatten_adjacencyLists]
    exact room
  apply (judges_ofAdjacency few' room').built.mpr
  constructor
  · rintro ⟨id, hid, negative⟩
    exact Int.not_lt.mpr (good id hid).1 negative
  · rintro ⟨id, hid, large⟩
    exact Int.not_le.mpr (good id hid).2 large

variable (made : ofAdjacency (g.adjacencyLists ++ more) = .ok h)
include made

theorem vertexCount_of_append :
    h.vertexCount = max (g.vertexCount + more.length) (entryBound more) := by
  rw [vertexCount_of_ofAdjacency made, wf.entryBound_adjacencyLists_append]

theorem adj_of_append (a b : Nat) :
    h.Adj a b ↔ a ≠ b ∧ (g.Adj a b ∨
      g.vertexCount ≤ a ∧ Lists more (a - g.vertexCount) b ∨
      g.vertexCount ≤ b ∧ Lists more (b - g.vertexCount) a) := by
  have symmetric : g.Adj b a ↔ g.Adj a b := ⟨wf.symmetric b a, wf.symmetric a b⟩
  rw [adj_of_ofAdjacency made, wf.lists_adjacencyLists_append, wf.lists_adjacencyLists_append,
    symmetric]
  tauto

end Appended

/-- The neighbor lists of a graph, with more lists behind them, make a graph with a vertex for every
list and entry. Its edges are those of the graph and those that the further lists name, in either
direction. Without further lists it is the graph itself. Endpoints are counted in 64 bits, hence
`room`, which holds of all lists that fit in memory. -/
theorem ofAdjacency_keeps_graph {g : Graph} (constructed : g.Constructed) {more : List (List Int)}
    (valid : ∀ id ∈ more.flatten, 0 ≤ id ∧ id < largestId)
    (few : ((g.vertexCount + more.length : Nat) : Int) ≤ largestId)
    (room : 2 * (g.neighbors.size + more.flatten.length) < sizeLimit) :
    ∃ lists h, g.adjacency = .ok lists ∧ lists.length = g.vertexCount ∧
      (∀ v < g.vertexCount, ∃ ns, g.neighborsOf v = .ok ns ∧
        lists[v]? = some (ns.toList.map Int.ofNat)) ∧
      ofAdjacency (lists ++ more) = .ok h ∧
      h.vertexCount = max (g.vertexCount + more.length) (entryBound more) ∧
      (∀ a b : Nat, a < h.vertexCount → b < h.vertexCount → ∃ joined, h.hasEdge a b = .ok joined ∧
        (joined = true ↔ a ≠ b ∧ (g.hasEdge a b = .ok true ∨
          g.vertexCount ≤ a ∧ Lists more (a - g.vertexCount) b ∨
          g.vertexCount ≤ b ∧ Lists more (b - g.vertexCount) a))) ∧
      (more = [] → h = g) := by
  have wf := constructed.wellFormed
  obtain ⟨h, made⟩ := exists_ofAdjacency_append wf valid few room
  have wf' := (Constructed.ofAdjacency made).wellFormed
  have adj := adj_of_append wf made
  have count := vertexCount_of_append wf made
  refine ⟨_, h, wf.adjacency_eq, g.length_adjacencyLists, ?_, made, count, ?_, ?_⟩
  · intro v hv
    exact ⟨_, wf.neighborsOf_eq hv, g.getElem?_adjacencyLists hv⟩
  · intro a b ha _
    refine ⟨_, wf'.hasEdge_eq_adj ha b, ?_⟩
    rw [decide_eq_true_iff, adj, wf.hasEdge_eq_true_iff]
  · rintro rfl
    apply wf'.eq_of_adj wf
    · rw [count]
      simp [entryBound]
    · intro a b
      rw [adj]
      constructor
      · rintro ⟨-, old | ⟨-, ns, none, -⟩ | ⟨-, ns, none, -⟩⟩
        · exact old
        · cases none
        · cases none
      · intro old
        exact ⟨wf.ne_of_adj old, .inl old⟩

/-- Two new lists behind an edge and an isolated vertex: one points back into the graph, the other
past the last list, and to itself. -/
theorem ofAdjacency_keeps_graph_beyond : ∃ g h,
    ofAdjacency [[1], [], []] = .ok g ∧
      ofAdjacency ([[1], [0], []] ++ [[0, 0], [6, 4]]) = .ok h ∧ h.vertexCount = 7 ∧
      h.hasEdge 0 1 = .ok true ∧ h.hasEdge 0 3 = .ok true ∧ h.hasEdge 6 4 = .ok true ∧
      h.hasEdge 4 4 = .ok false := by
  have first : ofAdjacency [[1], [], []] = .ok ⟨1, #[0, 1, 2, 2], #[1, 0], #[1, 1, 0]⟩ := by cbv
  have own : adjacency ⟨1, #[0, 1, 2, 2], #[1, 0], #[1, 1, 0]⟩ = .ok [[1], [0], []] := by cbv
  have valid : ∀ id ∈ ([[0, 0], [6, 4]] : List (List Int)).flatten, 0 ≤ id ∧ id < largestId := by
    decide
  obtain ⟨lists, h, told, -, -, made, count, edges, -⟩ :=
    ofAdjacency_keeps_graph (.ofAdjacency first) valid (by decide) (by decide)
  rw [own, Except.ok.injEq] at told
  subst told
  have inside (a : Nat) (ha : a < 7) : a < h.vertexCount := by
    rw [count]
    exact ha
  refine ⟨_, h, first, made, count, ?_, ?_, ?_, ?_⟩
  · obtain ⟨joined, answer, meaning⟩ := edges 0 1 (inside 0 (by decide)) (inside 1 (by decide))
    rw [← meaning.mpr ⟨by decide, .inl (by cbv)⟩]
    exact answer
  · obtain ⟨joined, answer, meaning⟩ := edges 0 3 (inside 0 (by decide)) (inside 3 (by decide))
    rw [← meaning.mpr ⟨by decide, .inr (.inr ⟨by decide, [0, 0], rfl, by decide⟩)⟩]
    exact answer
  · obtain ⟨joined, answer, meaning⟩ := edges 6 4 (inside 6 (by decide)) (inside 4 (by decide))
    rw [← meaning.mpr ⟨by decide, .inr (.inr ⟨by decide, [6, 4], rfl, by decide⟩)⟩]
    exact answer
  · obtain ⟨joined, answer, meaning⟩ := edges 4 4 (inside 4 (by decide)) (inside 4 (by decide))
    rw [← Bool.eq_false_iff.mpr fun same => (meaning.mp same).1 rfl]
    exact answer

/-- The edges that are no loops. -/
def withoutLoops (edges : List Edge) : List Edge := edges.filter fun e => e.1 ≠ e.2

theorem mem_withoutLoops {edges : List Edge} {a b : Int} :
    (a, b) ∈ withoutLoops edges ↔ (a, b) ∈ edges ∧ a ≠ b := by
  simp [withoutLoops]

theorem maxId?_congr {xs ys : List Edge} (same : ∀ id, id ∈ ids xs ↔ id ∈ ids ys) :
    maxId? xs = maxId? ys := by
  apply Option.ext
  intro id
  change (ids xs).max? = some id ↔ (ids ys).max? = some id
  simp only [List.max?_eq_some_iff, same]

section Relisted

variable {edges more : List Edge} {g : Graph} (made : ofEdges edges = .ok g)
include made

theorem mem_edgeList_of_ofEdges {a b : Int} :
    (a, b) ∈ g.edgeList ↔ a < b ∧ ((a, b) ∈ edges ∨ (b, a) ∈ edges) := by
  have built := (ofEdges_eq_ok_iff.mp made).2
  obtain ⟨kept, told, -, mem⟩ := (represents_of_build built (Nat.zero_le _)).edges
  rw [(Constructed.ofEdges made).wellFormed.edges_eq, Except.ok.injEq] at told
  rw [told, mem]

theorem mem_ids_edgeList {id : Int} : id ∈ ids g.edgeList ↔ id ∈ ids (withoutLoops edges) := by
  constructor
  · intro hid
    obtain ⟨⟨a, b⟩, he, here⟩ := mem_ids.mp hid
    obtain ⟨ordered, listed | listed⟩ := (mem_edgeList_of_ofEdges made).mp he
    · exact mem_ids.mpr ⟨(a, b), mem_withoutLoops.mpr ⟨listed, ordered.ne⟩, here⟩
    · exact mem_ids.mpr ⟨(b, a), mem_withoutLoops.mpr ⟨listed, ordered.ne'⟩, here.symm⟩
  · intro hid
    obtain ⟨⟨a, b⟩, he, here⟩ := mem_ids.mp hid
    obtain ⟨listed, distinct⟩ := mem_withoutLoops.mp he
    rcases lt_or_gt_of_ne distinct with ordered | ordered
    · exact mem_ids.mpr ⟨(a, b), (mem_edgeList_of_ofEdges made).mpr ⟨ordered, .inl listed⟩, here⟩
    · exact mem_ids.mpr
        ⟨(b, a), (mem_edgeList_of_ofEdges made).mpr ⟨ordered, .inr listed⟩, here.symm⟩

theorem joinedPairs_edgeList : joinedPairs g.edgeList = joinedPairs edges := by
  ext p
  induction p with
  | h a b =>
    rw [mem_joinedPairs, mem_joinedPairs, mem_edgeList_of_ofEdges made,
      mem_edgeList_of_ofEdges made]
    constructor
    · rintro ⟨distinct, ⟨-, listed⟩ | ⟨-, listed⟩⟩
      · exact ⟨distinct, listed⟩
      · exact ⟨distinct, listed.symm⟩
    · rintro ⟨distinct, listed⟩
      rcases lt_or_gt_of_ne distinct with ordered | ordered
      · exact ⟨distinct, .inl ⟨ordered, listed⟩⟩
      · exact ⟨distinct, .inr ⟨ordered, listed.symm⟩⟩

/-- Every edge that is told was given at least once. -/
theorem length_edgeList_le : g.edgeList.length ≤ edges.length := by
  have wf := (Constructed.ofEdges made).wellFormed
  have once : g.edgeList.Nodup := wf.pairwise_edgeList.nodup
  have given : g.edgeList ⊆ edges.map fun e => (min e.1 e.2, max e.1 e.2) := by
    rintro ⟨a, b⟩ he
    obtain ⟨ordered, listed | listed⟩ := (mem_edgeList_of_ofEdges made).mp he
    · exact List.mem_map.mpr ⟨_, listed, by simp [ordered.le]⟩
    · exact List.mem_map.mpr ⟨_, listed, by simp [ordered.le]⟩
  have few := (List.subperm_of_subset once given).length_le
  rwa [List.length_map] at few

theorem validIds_edgeList : ValidIds g.edgeList := by
  have valid := (build_eq_ok_iff.mp (ofEdges_eq_ok_iff.mp made).2).1
  rintro ⟨a, b⟩ he
  obtain ⟨-, listed | listed⟩ := (mem_edgeList_of_ofEdges made).mp he
  · exact valid _ listed
  · exact (valid _ listed).symm

theorem exists_ofEdges_append (valid : ValidIds more) (nonempty : g.edgeList ++ more ≠ [])
    (room : 2 * (edges ++ more).length < sizeLimit) :
    ∃ h whole, ofEdges (g.edgeList ++ more) = .ok h ∧ ofEdges (edges ++ more) = .ok whole := by
  have validAll {xs : List Edge} (valid' : ValidIds xs) : ValidIds (xs ++ more) := by
    intro e he
    rcases List.mem_append.mp he with he | he
    · exact valid' e he
    · exact valid e he
  have given := ofEdges_eq_ok_iff.mp made
  have fewer := length_edgeList_le made
  obtain ⟨h, again⟩ := exists_ofEdges nonempty (validAll (validIds_edgeList made)) (by
    simp only [List.length_append] at room ⊢
    omega)
  obtain ⟨whole, once⟩ := exists_ofEdges (List.append_ne_nil_of_left_ne_nil given.1 more)
    (validAll (build_eq_ok_iff.mp given.2).1) room
  exact ⟨h, whole, again, once⟩

variable {h whole : Graph} (again : ofEdges (g.edgeList ++ more) = .ok h)
include again

theorem maxId?_of_relisted :
    maxId? (withoutLoops edges ++ more) = some ((h.vertexCount : Int) - 1) := by
  rw [← maxId?_of_ofEdges again]
  apply maxId?_congr
  intro id
  rw [mem_ids_append, mem_ids_append, mem_ids_edgeList made]

variable (once : ofEdges (edges ++ more) = .ok whole)
include once

theorem adj_of_relisted (v w : Nat) : h.Adj v w ↔ whole.Adj v w := by
  rw [adj_iff_mem_joinedPairs again, adj_iff_mem_joinedPairs once, joinedPairs_append,
    joinedPairs_append, joinedPairs_edgeList made]

theorem eq_iff_of_relisted :
    h = whole ↔ maxId? (withoutLoops edges ++ more) = maxId? (edges ++ more) := by
  rw [maxId?_of_relisted made again, maxId?_of_ofEdges once, Option.some.injEq]
  constructor
  · rintro rfl
    rfl
  · intro same
    have wf := (Constructed.ofEdges again).wellFormed
    have wf' := (Constructed.ofEdges once).wellFormed
    exact wf.eq_of_adj wf' (by omega) (adj_of_relisted made again once)

end Relisted

/-- The edges that a graph tells, with more behind them, make a graph with the edges of all that was
given. It ends with the largest id of the further edges and of those first ones that are no loops,
and is the graph of all that was given exactly when that is the largest id given. It is refused only
if there is nothing to build from. Again `room` holds of all lists that fit in memory. -/
theorem ofEdges_keeps_edges {edges more : List Edge} {g : Graph} (made : ofEdges edges = .ok g)
    (valid : ValidIds more) (room : 2 * (edges ++ more).length < sizeLimit) :
    ∃ kept, g.edges = .ok kept ∧
      (kept ++ more = [] →
        ∃ e, ofEdges (kept ++ more) = .error e ∧ e.category? = some .invalidArgument) ∧
      (kept ++ more ≠ [] → ∃ h whole, ofEdges (kept ++ more) = .ok h ∧
        ofEdges (edges ++ more) = .ok whole ∧
        (∃ es, h.edges = .ok es ∧ whole.edges = .ok es) ∧
        maxId? (withoutLoops edges ++ more) = some ((h.vertexCount : Int) - 1) ∧
        (h = whole ↔ maxId? (withoutLoops edges ++ more) = maxId? (edges ++ more))) := by
  have wf := (Constructed.ofEdges made).wellFormed
  refine ⟨g.edgeList, wf.edges_eq, ?_, ?_⟩
  · intro empty
    rw [empty]
    exact ⟨.emptyEdgeList, rfl, rfl⟩
  · intro nonempty
    obtain ⟨h, whole, again, once⟩ := exists_ofEdges_append made valid nonempty room
    have wf := (Constructed.ofEdges again).wellFormed
    have wf' := (Constructed.ofEdges once).wellFormed
    have same := wf.edgeList_eq_of_adj wf' (adj_of_relisted made again once)
    refine ⟨h, whole, again, once, ⟨h.edgeList, wf.edges_eq, ?_⟩, maxId?_of_relisted made again,
      eq_iff_of_relisted made again once⟩
    rw [same]
    exact wf'.edges_eq

/-- An edge and a loop at a larger id. The loop is not told: an edge behind it leaves the id out, and
one that reaches the id brings it back. -/
theorem ofEdges_keeps_edges_loop : ∃ g, ofEdges [(1, 0), (5, 5)] = .ok g ∧
    g.edges = .ok [(0, 1)] ∧
    (∃ h whole, ofEdges [(0, 1), (1, 2)] = .ok h ∧
      ofEdges [(1, 0), (5, 5), (1, 2)] = .ok whole ∧ h.vertexCount = 3 ∧ h ≠ whole) ∧
    ∃ h, ofEdges [(0, 1), (2, 5)] = .ok h ∧ ofEdges [(1, 0), (5, 5), (2, 5)] = .ok h := by
  have made : ofEdges [(1, 0), (5, 5)] =
      .ok ⟨1, #[0, 1, 2, 2, 2, 2, 2], #[1, 0], #[1, 1, 0, 0, 0, 0]⟩ := by cbv
  have told : edges ⟨1, #[0, 1, 2, 2, 2, 2, 2], #[1, 0], #[1, 1, 0, 0, 0, 0]⟩ =
      .ok [(0, 1)] := by cbv
  refine ⟨_, made, told, ?_, ?_⟩
  · obtain ⟨kept, told', -, builds⟩ :=
      ofEdges_keeps_edges made (show ValidIds [(1, 2)] by decide) (by decide)
    rw [told, Except.ok.injEq] at told'
    subst told'
    obtain ⟨h, whole, again, once, -, largest, same⟩ := builds (by decide)
    have largest : some (2 : Int) = some ((h.vertexCount : Int) - 1) := largest
    rw [Option.some.injEq] at largest
    exact ⟨h, whole, again, once, by omega, same.not.mpr (by decide)⟩
  · obtain ⟨kept, told', -, builds⟩ :=
      ofEdges_keeps_edges made (show ValidIds [(2, 5)] by decide) (by decide)
    rw [told, Except.ok.injEq] at told'
    subst told'
    obtain ⟨h, whole, again, once, -, -, same⟩ := builds (by decide)
    obtain rfl := same.mpr (by decide)
    exact ⟨h, again, once⟩

end Motif.Graph
