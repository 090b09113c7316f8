import Motif.Proofs.Graph.Listed

/-!
# What makes a graph

Only the ids decide. A negative one refuses the input wherever it stands, before an id that leaves
no room for the vertex count; nothing else does, because every sum of degrees is at most the number
of endpoints. Adjacency lists are judged by their entries, as the number of a list is a vertex.
-/

set_option autoImplicit false

namespace Motif.Graph

/-- How a construction answers: an invalid argument goes before an id that is too large, and without
either there is a graph. -/
structure Judges (made : Except Error Graph) (invalid large : Prop) : Prop where
  invalidArgument : (∃ e, made = .error e ∧ e.category? = some .invalidArgument) ↔ invalid
  rangeError : (∃ e, made = .error e ∧ e.category? = some .rangeError) ↔ ¬ invalid ∧ large
  built : (∃ g, made = .ok g) ↔ ¬ invalid ∧ ¬ large
  neverOverflows : made ≠ .error .sumOverflow

namespace Judges

variable {made : Except Error Graph} {invalid large : Prop}

theorem refused {e : Error} (failed : made = .error e) (category : e.category? = some .invalidArgument)
    (h : invalid) : Judges made invalid large := by
  subst failed
  refine ⟨?_, ?_, ?_, ?_⟩
  · exact iff_of_true ⟨e, rfl, category⟩ h
  · refine iff_of_false ?_ fun h' => h'.1 h
    rintro ⟨e', same, category'⟩
    cases same
    rw [category] at category'
    cases category'
  · exact iff_of_false nofun fun h' => h'.1 h
  · rintro ⟨⟩
    cases category

theorem tooLarge (failed : made = .error .idTooLarge) (h : ¬ invalid) (h' : large) :
    Judges made invalid large := by
  subst failed
  refine ⟨iff_of_false ?_ h, iff_of_true ⟨_, rfl, rfl⟩ ⟨h, h'⟩,
    iff_of_false nofun fun h'' => h''.2 h', nofun⟩
  rintro ⟨e, same, category⟩
  cases same
  cases category

theorem accepted {g : Graph} (succeeded : made = .ok g) (h : ¬ invalid) (h' : ¬ large) :
    Judges made invalid large := by
  subst succeeded
  refine ⟨iff_of_false ?_ h, iff_of_false ?_ fun h'' => h' h''.2, iff_of_true ⟨g, rfl⟩ ⟨h, h'⟩, ?_⟩
  · rintro ⟨e, same, -⟩
    cases same
  · rintro ⟨e, same, -⟩
    cases same
  · rintro ⟨⟩

end Judges

theorem vertexBound_of_negative {edges : List Edge} (h : ∃ id ∈ ids edges, id < 0) :
    vertexBound edges = .error .negativeId := by
  obtain ⟨id, hid, negative⟩ := h
  obtain ⟨e, he, here⟩ := mem_ids.mp hid
  unfold vertexBound
  apply if_pos
  apply List.any_eq_true.mpr
  refine ⟨e, he, ?_⟩
  rcases here with rfl | rfl
  · simp [negative]
  · simp [negative]

theorem vertexBound_of_large {edges : List Edge} (nonneg : ¬ ∃ id ∈ ids edges, id < 0)
    (h : ∃ id ∈ ids edges, largestId ≤ id) : vertexBound edges = .error .idTooLarge := by
  obtain ⟨id, hid, large⟩ := h
  obtain ⟨e, he, here⟩ := mem_ids.mp hid
  unfold vertexBound
  rw [if_neg, if_pos]
  · apply List.any_eq_true.mpr
    refine ⟨e, he, ?_⟩
    rcases here with rfl | rfl
    · simp [large]
    · simp [large]
  · intro negative
    obtain ⟨e, he, negative⟩ := List.any_eq_true.mp negative
    rw [Bool.or_eq_true, decide_eq_true_iff, decide_eq_true_iff] at negative
    apply nonneg
    rcases negative with h | h
    · exact ⟨_, mem_ids.mpr ⟨e, he, .inl rfl⟩, h⟩
    · exact ⟨_, mem_ids.mpr ⟨e, he, .inr rfl⟩, h⟩

theorem exists_ofEdges {edges : List Edge} (nonempty : edges ≠ []) (valid : ValidIds edges)
    (room : 2 * edges.length < sizeLimit) : ∃ g, ofEdges edges = .ok g := by
  obtain ⟨g, built⟩ := exists_build_ok valid (show ((0 : Nat) : Int) ≤ largestId by decide) room
  exact ⟨g, ofEdges_eq_ok_iff.mpr ⟨nonempty, built⟩⟩

theorem judges_build {edges : List Edge} {minimum : Nat} (few : (minimum : Int) ≤ largestId)
    (room : 2 * edges.length < sizeLimit) :
    Judges (build edges minimum) (∃ id ∈ ids edges, id < 0)
      (∃ id ∈ ids edges, largestId ≤ id) := by
  by_cases negative : ∃ id ∈ ids edges, id < 0
  · have failed := vertexBound_of_negative negative
    exact .refused (by rw [build, failed]; rfl) rfl negative
  · by_cases large : ∃ id ∈ ids edges, largestId ≤ id
    · have failed := vertexBound_of_large negative large
      exact .tooLarge (by rw [build, failed]; rfl) negative large
    · have valid : ValidIds edges := by
        apply validIds_iff.mpr
        intro id hid
        constructor
        · exact Int.not_lt.mp fun h => negative ⟨id, hid, h⟩
        · exact Int.not_le.mp fun h => large ⟨id, hid, h⟩
      obtain ⟨g, made⟩ := exists_build_ok valid few room
      exact .accepted made negative large

theorem judges_ofEdges {edges : List Edge} (room : 2 * edges.length < sizeLimit) :
    Judges (ofEdges edges) (edges = [] ∨ ∃ id ∈ ids edges, id < 0)
      (∃ id ∈ ids edges, largestId ≤ id) := by
  cases edges with
  | nil => exact .refused (e := .emptyEdgeList) rfl rfl (.inl rfl)
  | cons e edges =>
    rw [or_iff_right (List.cons_ne_nil e edges)]
    exact judges_build (by decide) room

theorem judges_ofAdjacency {lists : List (List Int)} (few : (lists.length : Int) ≤ largestId)
    (room : 2 * lists.flatten.length < sizeLimit) :
    Judges (ofAdjacency lists) (∃ id ∈ lists.flatten, id < 0)
      (∃ id ∈ lists.flatten, largestId ≤ id) := by
  rw [ofAdjacency, if_neg (Int.not_lt.mpr few),
    ← exists_mem_ids_listedEdges fun id nonneg _ => Int.not_lt.mpr nonneg,
    ← exists_mem_ids_listedEdges fun id _ below => Int.not_le.mpr (Int.lt_of_lt_of_le below few)]
  exact judges_build few (by rw [length_listedEdges]; exact room)

/-- Lists without entries make vertices without neighbors. -/
theorem exists_ofAdjacency_isolated {lists : List (List Int)} (few : (lists.length : Int) ≤ largestId)
    (empty : lists.flatten = []) :
    ∃ g, ofAdjacency lists = .ok g ∧ g.vertexCount = lists.length ∧ g.edgeCount = 0 ∧
      ∀ v < g.vertexCount, g.neighborsOf v = .ok #[] := by
  have none : listedEdges lists = [] := by
    rw [← List.length_eq_zero_iff, length_listedEdges, empty, List.length_nil]
  have valid : ValidIds [] := by simp [ValidIds]
  obtain ⟨g, made⟩ := exists_build_ok valid few (by decide)
  have wf := wellFormed_of_build made (by omega)
  refine ⟨g, ?_, ?_, ?_, ?_⟩
  · rw [ofAdjacency, if_neg (Int.not_lt.mpr few), none]
    exact made
  · rw [vertexCount_of_build made]
    simp [idBound]
  · rw [edgeCount_of_build made (by omega)]
    rfl
  · intro v hv
    have alone : g.neighborList v = [] := by
      rw [List.eq_nil_iff_forall_not_mem]
      intro w hw
      have := (adj_of_build made v w).mp hw
      simp [Joined] at this
    rw [wf.neighborsOf_eq hv, alone]

/-- Edges are refused as an invalid argument exactly when there are none or an id is negative, and
otherwise for their range exactly when an id is too large, whatever stands before it. Adjacency lists
are judged by their entries alike, but need none. There is no input of this size whose sums overflow. -/
theorem construction_judged_by_ids :
    (∀ edges : List Edge, 2 * edges.length < sizeLimit →
      Judges (ofEdges edges) (edges = [] ∨ ∃ id ∈ ids edges, id < 0)
        (∃ id ∈ ids edges, largestId ≤ id)) ∧
    ∀ lists : List (List Int), (lists.length : Int) ≤ largestId →
      2 * lists.flatten.length < sizeLimit →
      Judges (ofAdjacency lists) (∃ id ∈ lists.flatten, id < 0)
        (∃ id ∈ lists.flatten, largestId ≤ id) ∧
      (lists.flatten = [] → ∃ g, ofAdjacency lists = .ok g ∧ g.vertexCount = lists.length ∧
        g.edgeCount = 0 ∧ ∀ v < g.vertexCount, g.neighborsOf v = .ok #[]) := by
  constructor
  · intro edges room
    exact judges_ofEdges room
  · intro lists few room
    exact ⟨judges_ofAdjacency few room, exists_ofAdjacency_isolated few⟩

theorem construction_judged_by_ids_mixed :
    (∃ e, ofEdges [(0, 2147483647), (-1, 3)] = .error e ∧ e.category? = some .invalidArgument) ∧
      (∃ e, ofAdjacency [[2147483647], [1]] = .error e ∧ e.category? = some .rangeError) ∧
      ∃ g, ofAdjacency [[], []] = .ok g ∧ g.vertexCount = 2 ∧ g.edgeCount = 0 := by
  obtain ⟨byEdges, byLists⟩ := construction_judged_by_ids
  refine ⟨?_, ?_, ?_⟩
  · exact (byEdges [(0, 2147483647), (-1, 3)] (by decide)).invalidArgument.mpr
      (.inr ⟨-1, by decide, by decide⟩)
  · exact (byLists [[2147483647], [1]] (by decide) (by decide)).1.rangeError.mpr
      ⟨by decide, 2147483647, by decide, by decide⟩
  · obtain ⟨g, made, vertices, edges, -⟩ := (byLists [[], []] (by decide) (by decide)).2 rfl
    exact ⟨g, made, vertices, edges⟩

end Motif.Graph
