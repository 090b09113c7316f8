import Motif.Proofs.Matching.Ordered
import Motif.Proofs.Matching.Renumbered

/-!
# Isomorphisms

Between graphs with equally many vertices and edges an embedding leaves no vertex and no edge out,
so it is an isomorphism, and whether it has to be induced makes no difference: the trees that are
searched have the same leaves in the same order. Embeddings of a graph in itself compose, and can be
undone.
-/

set_option autoImplicit false

namespace Motif.Matching

/-- A row that takes the vertices of a pattern to all vertices of a target, each to one of its own,
with the same edges between them. -/
structure IsIsomorphism (target pattern : Graph) (row : Array Nat) : Prop where
  size : row.size = pattern.vertexCount
  onto : row.toList.Perm target.vertices
  adj_iff : ∀ u v x y : Nat, row[u]? = some x → row[v]? = some y →
    (pattern.Adj u v ↔ target.Adj x y)

section Counted

variable {target pattern : Graph} (targetFits : target.WellFormed) (source : pattern.WellFormed)
  (vertices : target.vertexCount = pattern.vertexCount) {row : Array Nat}
include vertices

/-- Different entries below their number are all numbers below it. -/
theorem IsEmbedding.perm {kind : Kind} (h : IsEmbedding kind target pattern row) :
    row.toList.Perm target.vertices := by
  have inside : row.toList ⊆ target.vertices := by
    intro x hx
    obtain ⟨v, hv⟩ := List.mem_iff_getElem?.mp hx
    exact Graph.mem_vertices.mpr (h.inside v x (by simpa using hv))
  apply (h.nodup.subperm inside).perm_of_length_le
  rw [Graph.vertices, List.length_range, Array.length_toList, h.size, vertices]

include targetFits source

theorem isEmbedding_iff_isIsomorphism (edges : target.edgeCount = pattern.edgeCount) (kind : Kind) :
    IsEmbedding kind target pattern row ↔ IsIsomorphism target pattern row := by
  constructor
  · intro h
    refine ⟨h.size, h.perm vertices, ?_⟩
    intro u v x y hx hy
    refine ⟨h.edges u v x y hx hy, fun joined => ?_⟩
    have column {u x : Nat} (hx : row[u]? = some x) : u < pattern.vertexCount :=
      h.size ▸ (Array.getElem?_eq_some_iff.mp hx).1
    refine (h.embeds source).toMapsInto.adj_of_adj source targetFits edges.symm (column hx)
      (column hy) ?_
    rw [hx, hy]
    exact joined
  · intro h
    have nodup : row.toList.Nodup := h.onto.nodup_iff.mpr List.nodup_range
    refine ⟨h.size, ?_, ?_, ?_, ?_⟩
    · intro v x hx
      have entry : x ∈ row.toList := Array.mem_toList_iff.mpr (Array.mem_of_getElem? hx)
      exact Graph.mem_vertices.mp (h.onto.mem_iff.mp entry)
    · intro u v x hu hv
      exact position_unique nodup (by simpa using hu) (by simpa using hv)
    · intro u v x y hx hy
      exact (h.adj_iff u v x y hx hy).mp
    · intro _ u v x y hx hy _ apart joined
      exact apart ((h.adj_iff u v x y hx hy).mpr joined)

end Counted

/-- A vertex for a vertex: each stays where it is. -/
theorem isIsomorphism_vertices (g : Graph) : IsIsomorphism g g g.vertices.toArray := by
  refine ⟨by simp [Graph.vertices], List.Perm.refl _, ?_⟩
  intro u v x y hx hy
  obtain ⟨-, rfl⟩ := List.getElem?_eq_some_iff.mp ((List.getElem?_toArray).symm.trans hx)
  obtain ⟨-, rfl⟩ := List.getElem?_eq_some_iff.mp ((List.getElem?_toArray).symm.trans hy)
  simp [Graph.vertices]

/-- The row of one map behind another. -/
def composed (outer inner : Array Nat) : Array Nat := inner.map fun x => outer[x]?.getD 0

/-- The row of the way back. -/
def inverted (row : Array Nat) : Array Nat := tabulate row.size row.toList.idxOf

namespace IsIsomorphism

variable {g h k : Graph} {outer inner row : Array Nat}

theorem inside (iso : IsIsomorphism g h row) {v x : Nat} (hx : row[v]? = some x) :
    x < g.vertexCount := by
  rw [← Graph.mem_vertices, ← iso.onto.mem_iff, Array.mem_toList_iff]
  exact Array.mem_of_getElem? hx

theorem vertexCount_eq (iso : IsIsomorphism g h row) : g.vertexCount = h.vertexCount := by
  rw [← iso.size, ← Array.length_toList, iso.onto.length_eq, Graph.vertices, List.length_range]

theorem getElem?_composed (first : IsIsomorphism g h inner) (second : IsIsomorphism k g outer)
    (v : Nat) : (composed outer inner)[v]? = inner[v]?.bind fun x => outer[x]? := by
  rw [composed, Array.getElem?_map]
  cases hx : inner[v]? with
  | none => rfl
  | some x =>
    have : x < outer.size := second.size ▸ first.inside hx
    simp [this]

theorem comp (first : IsIsomorphism g h inner) (second : IsIsomorphism k g outer) :
    IsIsomorphism k h (composed outer inner) := by
  refine ⟨by rw [composed, Array.size_map, first.size], ?_, ?_⟩
  · have read : g.vertices.map (fun x => outer[x]?.getD 0) = outer.toList := by
      apply List.ext_getElem
      · simp [Graph.vertices, second.size]
      · intro x _ hx
        have hx : x < outer.size := by simpa using hx
        simp [Graph.vertices, hx]
    rw [composed, Array.toList_map]
    exact (first.onto.map _).trans (read ▸ second.onto)
  · intro u v x y hx hy
    rw [first.getElem?_composed second, Option.bind_eq_some_iff] at hx hy
    obtain ⟨x', hx', hx⟩ := hx
    obtain ⟨y', hy', hy⟩ := hy
    exact (first.adj_iff u v x' y' hx' hy').trans (second.adj_iff x' y' x y hx hy)

theorem getElem?_inverted (iso : IsIsomorphism g h row) (v x : Nat) :
    (inverted row)[x]? = some v ↔ row[v]? = some x := by
  have nodup : row.toList.Nodup := iso.onto.nodup_iff.mpr List.nodup_range
  have count : row.size = g.vertexCount := iso.size.trans iso.vertexCount_eq.symm
  constructor
  · intro hv
    have hx : x < row.size := by
      simpa [inverted] using (Array.getElem?_eq_some_iff.mp hv).1
    rw [inverted, getElem?_tabulate _ hx, Option.some.injEq] at hv
    have known : x ∈ row.toList := iso.onto.mem_iff.mpr (Graph.mem_vertices.mpr (count ▸ hx))
    rw [← hv, ← Array.getElem?_toList]
    exact List.getElem?_idxOf known
  · intro hx
    have inside : x < row.size := count ▸ iso.inside hx
    rw [inverted, getElem?_tabulate _ inside, Option.some.injEq]
    obtain ⟨hv, rfl⟩ := Array.getElem?_eq_some_iff.mp hx
    exact nodup.idxOf_getElem v hv

theorem symm (iso : IsIsomorphism g h row) : IsIsomorphism h g (inverted row) := by
  have size : (inverted row).size = g.vertexCount := by
    rw [inverted, size_tabulate, iso.size, iso.vertexCount_eq]
  have nodup : row.toList.Nodup := iso.onto.nodup_iff.mpr List.nodup_range
  refine ⟨size, ?_, ?_⟩
  · have positions : row.toList.map row.toList.idxOf = h.vertices := by
      apply List.ext_getElem
      · simp [Graph.vertices, iso.size]
      · intro v hv _
        have hv : v < row.toList.length := by simpa using hv
        rw [List.getElem_map, nodup.idxOf_getElem v hv]
        simp [Graph.vertices]
    have numbers : List.range row.size = g.vertices := by
      rw [Graph.vertices, iso.size, iso.vertexCount_eq]
    rw [← positions, inverted, tabulate, numbers]
    exact (iso.onto.map _).symm
  · intro x y u v hu hv
    rw [iso.getElem?_inverted] at hu hv
    exact (iso.adj_iff u v x y hu hv).symm

end IsIsomorphism

section Leaves

variable {target pattern : Graph} {o : VisitOrder} (visits : o.Visits pattern)
  (targetFits : target.WellFormed) (source : pattern.WellFormed)
include visits targetFits source

theorem mem_extensions_iff_isEmbedding {kind : Kind} {images : List Nat} :
    images ∈ extensions ⟨target, o, kind⟩ pattern.vertexCount [] ↔
      images.length = pattern.vertexCount ∧
        IsEmbedding kind target pattern (arrange o.order images) := by
  rw [← mem_map_arrange (p := ⟨target, o, kind⟩) visits targetFits source, List.mem_map]
  have length {images : List Nat}
      (leaf : images ∈ extensions ⟨target, o, kind⟩ pattern.vertexCount []) :
      images.length = pattern.vertexCount := (mem_extensions.mp leaf).2.1.trans (Nat.zero_add _)
  constructor
  · intro leaf
    exact ⟨length leaf, images, leaf, rfl⟩
  · rintro ⟨whole, images', leaf, same⟩
    exact arrange_inj visits.permutes (length leaf) whole same ▸ leaf

/-- Trees with the same embeddings at their leaves have the same leaves in the same order. -/
theorem extensions_congr {kind kind' : Kind}
    (same : ∀ row, IsEmbedding kind target pattern row ↔ IsEmbedding kind' target pattern row) :
    extensions ⟨target, o, kind⟩ pattern.vertexCount [] =
      extensions ⟨target, o, kind'⟩ pattern.vertexCount [] := by
  apply List.Pairwise.eq_of_mem_iff (pairwise_extensions _ _ _) (pairwise_extensions _ _ _)
  intro images
  rw [mem_extensions_iff_isEmbedding visits targetFits source,
    mem_extensions_iff_isEmbedding visits targetFits source, same]

end Leaves

/-- Searching for a pattern with as many vertices and edges as the target finds the isomorphisms,
the same rows in the same order whether they have to be induced or not. Those of a graph with itself
hold the identity, and with any two maps the one behind the other, and with any map the way back. -/
theorem embeddings_isomorphisms {target pattern : Graph} (targetMade : target.Constructed)
    (patternMade : pattern.Constructed) (patternSome : 0 < pattern.vertexCount)
    (vertices : target.vertexCount = pattern.vertexCount)
    (edges : target.edgeCount = pattern.edgeCount) :
    ∃ found, (∀ kind, Finds ⟨kind, false, 0⟩ target pattern found) ∧
      found.table.rows.Nodup ∧ found.count = found.table.rows.length ∧
      (∀ row, row ∈ found.table.rows ↔ IsIsomorphism target pattern row) ∧
      (target = pattern →
        pattern.vertices.toArray ∈ found.table.rows ∧
        (∀ outer ∈ found.table.rows, ∀ inner ∈ found.table.rows, ∃ both ∈ found.table.rows,
          ∀ v : Nat, both[v]? = inner[v]?.bind fun x => outer[x]?) ∧
        ∀ row ∈ found.table.rows, ∃ back ∈ found.table.rows,
          ∀ v x : Nat, back[x]? = some v ↔ row[v]? = some x) := by
  have targetFits := targetMade.wellFormed
  have source := patternMade.wellFormed
  have targetSome : 0 < target.vertexCount := vertices ▸ patternSome
  have isomorphic (kind : Kind) (row : Array Nat) :
      IsEmbedding kind target pattern row ↔ IsIsomorphism target pattern row :=
    isEmbedding_iff_isIsomorphism targetFits source vertices edges kind
  obtain ⟨found, run, complete⟩ :=
    exists_complete targetFits source targetSome patternSome .induced
  have rows (row : Array Nat) : row ∈ found.table.rows ↔ IsIsomorphism target pattern row :=
    (complete.mem_rows row).trans (isomorphic .induced row)
  refine ⟨found, ?_, complete.nodup, complete.count, rows, ?_⟩
  · intro kind
    obtain ⟨o, ordered, visits, limited⟩ :=
      embeddings_eq_limit targetFits source targetSome patternSome kind
    obtain ⟨o', ordered', -, limited'⟩ :=
      embeddings_eq_limit targetFits source targetSome patternSome .induced
    rw [ordered, Except.ok.injEq] at ordered'
    subst ordered'
    have same (row : Array Nat) :
        IsEmbedding kind target pattern row ↔ IsEmbedding .induced target pattern row :=
      (isomorphic kind row).trans (isomorphic .induced row).symm
    have given := limited 0
    rw [extensions_congr visits targetFits source same] at given
    exact (limited' 0).unique run ▸ given
  · rintro rfl
    simp only [rows]
    refine ⟨isIsomorphism_vertices target, ?_, ?_⟩
    · intro outer second inner first
      exact ⟨composed outer inner, first.comp second, first.getElem?_composed second⟩
    · intro row iso
      exact ⟨inverted row, iso.symm, iso.getElem?_inverted⟩

/-- A triangle with a tail under two numberings, and a square turned by one corner: turning is
undone by a row that the same search finds. -/
theorem embeddings_isomorphisms_turned : ∃ target pattern square found turns,
    Graph.ofEdges [(0, 1), (1, 2), (2, 0), (2, 3)] = .ok target ∧
      Graph.ofEdges [(3, 2), (2, 1), (1, 3), (1, 0)] = .ok pattern ∧
      Graph.ofEdges [(0, 1), (1, 2), (2, 3), (3, 0)] = .ok square ∧
      Finds ⟨.induced, false, 0⟩ target pattern found ∧
      Finds ⟨.nonInduced, false, 0⟩ target pattern found ∧
      #[3, 2, 0, 1] ∈ found.table.rows ∧
      Finds ⟨.nonInduced, false, 0⟩ square square turns ∧
      #[1, 2, 3, 0] ∈ turns.table.rows ∧ ∃ back ∈ turns.table.rows, back[1]? = some 0 := by
  have target : Graph.ofEdges [(0, 1), (1, 2), (2, 0), (2, 3)] =
      .ok ⟨4, #[0, 2, 4, 7, 8], #[1, 2, 0, 2, 0, 1, 3, 2], #[2, 2, 3, 1]⟩ := by cbv
  have pattern : Graph.ofEdges [(3, 2), (2, 1), (1, 3), (1, 0)] =
      .ok ⟨4, #[0, 1, 4, 6, 8], #[1, 0, 2, 3, 1, 3, 1, 2], #[1, 3, 2, 2]⟩ := by cbv
  have square : Graph.ofEdges [(0, 1), (1, 2), (2, 3), (3, 0)] =
      .ok ⟨4, #[0, 2, 4, 6, 8], #[1, 3, 0, 2, 1, 3, 0, 2], #[2, 2, 2, 2]⟩ := by cbv
  obtain ⟨found, run, -, -, rows, -⟩ := embeddings_isomorphisms (.ofEdges target) (.ofEdges pattern)
    (by decide) (by decide) (by decide)
  obtain ⟨turns, turn, -, -, ways, group⟩ := embeddings_isomorphisms (.ofEdges square)
    (.ofEdges square) (by decide) rfl rfl
  obtain ⟨-, -, undone⟩ := group rfl
  have row : #[3, 2, 0, 1] ∈ found.table.rows := by
    rw [rows, ← isEmbedding_iff_isIsomorphism (Graph.Constructed.ofEdges target).wellFormed
      (Graph.Constructed.ofEdges pattern).wellFormed (by decide) (by decide) .induced]
    decide +kernel
  have way : #[1, 2, 3, 0] ∈ turns.table.rows := by
    rw [ways, ← isEmbedding_iff_isIsomorphism (Graph.Constructed.ofEdges square).wellFormed
      (Graph.Constructed.ofEdges square).wellFormed rfl rfl .induced]
    decide +kernel
  obtain ⟨back, found', entries⟩ := undone _ way
  exact ⟨_, _, _, found, turns, target, pattern, square, run .induced, run .nonInduced, row,
    turn .nonInduced, way, back, found', (entries 0 1).mpr rfl⟩

end Motif.Matching
