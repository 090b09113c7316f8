import Motif.Proofs.Graph.Edges
import Motif.Proofs.Graph.Gather
import Motif.Proofs.Graph.Scatter

/-!
# The graph of an edge list

The four passes together: what is left of the scattered rows are the neighbor lists of the given
pairs, whatever the order, the orientation and the repetitions of the pairs. The lists are
symmetric because every pair is claimed at both of its ends, so the halved count is exact.
-/

set_option autoImplicit false

namespace Motif.Graph

open Sorted

/-- Every id names a vertex that a graph can have. -/
def ValidIds (edges : List Edge) : Prop :=
  ∀ e ∈ edges, (0 ≤ e.1 ∧ e.1 < largestId) ∧ 0 ≤ e.2 ∧ e.2 < largestId

instance (edges : List Edge) : Decidable (ValidIds edges) :=
  inferInstanceAs (Decidable (∀ e ∈ edges, (0 ≤ e.1 ∧ e.1 < largestId) ∧ 0 ≤ e.2 ∧ e.2 < largestId))

/-- One more than the largest id of a list, and `0` for an empty one. -/
def idBound (edges : List Edge) : Nat :=
  edges.toFinset.sup fun e => (max e.1 e.2).toNat + 1

theorem foldl_max_eq_sup (edges : List Edge) (bound : Nat) :
    edges.foldl (fun n e => max n ((max e.1 e.2).toNat + 1)) bound = max bound (idBound edges) := by
  induction edges generalizing bound with
  | nil => simp [idBound]
  | cons e edges ih =>
    rw [List.foldl_cons, ih, idBound, idBound, List.toFinset_cons, Finset.sup_insert, max_assoc]

theorem vertexBound_eq_ok_iff {edges : List Edge} {bound : Nat} :
    vertexBound edges = .ok bound ↔ ValidIds edges ∧ idBound edges = bound := by
  unfold vertexBound
  split
  case isTrue h =>
    refine ⟨nofun, fun ⟨valid, _⟩ => ?_⟩
    obtain ⟨e, he, negative⟩ := List.any_eq_true.mp h
    have := valid e he
    simp only [Bool.or_eq_true, decide_eq_true_iff] at negative
    omega
  case isFalse h =>
    split
    case isTrue h' =>
      refine ⟨nofun, fun ⟨valid, _⟩ => ?_⟩
      obtain ⟨e, he, large⟩ := List.any_eq_true.mp h'
      have := valid e he
      simp only [Bool.or_eq_true, decide_eq_true_iff] at large
      omega
    case isFalse h' =>
      rw [foldl_max_eq_sup, Nat.zero_max, Except.ok.injEq]
      refine ⟨fun h'' => ⟨fun e he => ?_, h''⟩, fun h'' => h''.2⟩
      simp only [List.any_eq_true, Bool.or_eq_true, decide_eq_true_iff, not_exists, not_and,
        not_or] at h h'
      have := h e he
      have := h' e he
      omega

theorem lt_idBound {edges : List Edge} {e : Edge} (he : e ∈ edges) :
    e.1.toNat < idBound edges ∧ e.2.toNat < idBound edges := by
  have := Finset.le_sup (f := fun e : Edge => (max e.1 e.2).toNat + 1) (List.mem_toFinset.mpr he)
  change (max e.1 e.2).toNat + 1 ≤ idBound edges at this
  omega

theorem idBound_le {edges : List Edge} (valid : ValidIds edges) :
    idBound edges ≤ largestId.toNat := by
  refine Finset.sup_le fun e he => ?_
  have := valid e (List.mem_toFinset.mp he)
  omega

theorem mem_endpoints {edges : List Edge} (valid : ValidIds edges) (v w : Nat) :
    ⟨v, w⟩ ∈ endpoints edges ↔ ((v : Int), (w : Int)) ∈ edges ∨ ((w : Int), (v : Int)) ∈ edges := by
  simp only [endpoints, List.mem_flatMap, List.mem_cons, List.not_mem_nil, or_false,
    Endpoint.mk.injEq]
  constructor
  · rintro ⟨⟨a, b⟩, he, ⟨rfl, rfl⟩ | ⟨rfl, rfl⟩⟩
    all_goals
      obtain ⟨⟨ha, -⟩, hb, -⟩ := valid _ he
      rw [Int.toNat_of_nonneg ha, Int.toNat_of_nonneg hb]
    · exact .inl he
    · exact .inr he
  · rintro (he | he)
    · exact ⟨_, he, .inl ⟨rfl, rfl⟩⟩
    · exact ⟨_, he, .inr ⟨rfl, rfl⟩⟩

theorem vertex_lt_of_mem_endpoints {edges : List Edge} {e : Endpoint} (he : e ∈ endpoints edges) :
    e.vertex < idBound edges := by
  simp only [endpoints, List.mem_flatMap, List.mem_cons, List.not_mem_nil, or_false] at he
  obtain ⟨edge, hedge, rfl | rfl⟩ := he
  · exact (lt_idBound hedge).1
  · exact (lt_idBound hedge).2

/-- Every endpoint has one place in the rows. -/
theorem sum_incidentRows {vertexCount : Nat} {ends : List Endpoint}
    (valid : ∀ e ∈ ends, e.vertex < vertexCount) :
    ((incidentRows vertexCount ends).map List.length).sum = ends.length := by
  rw [incidentRows, List.map_map, ← List.sum_toFinset _ List.nodup_range, List.toFinset_range]
  simp only [Function.comp_apply, length_incident]
  rw [← List.length_map (·.vertex), ← List.sum_toFinset_count_eq_length]
  refine (Finset.sum_subset ?_ ?_).symm
  · intro v hv
    obtain ⟨e, he, rfl⟩ := List.mem_map.mp (List.mem_toFinset.mp hv)
    exact Finset.mem_range.mpr (valid e he)
  · intro v _ absent
    exact List.count_eq_zero.mpr fun hv => absent (List.mem_toFinset.mpr hv)

/-- The neighbor lists that the pairs make on so many vertices. -/
def builtLists (vertexCount : Nat) (edges : List Edge) : List (List Nat) :=
  tidyLists (incidentRows vertexCount (endpoints edges))

theorem builtLists_getD {vertexCount v : Nat} {edges : List Edge} (h : v < vertexCount) :
    (builtLists vertexCount edges)[v]?.getD [] = tidyList v (incident (endpoints edges) v) := by
  have inside : v < (incidentRows vertexCount (endpoints edges)).length := by simpa using h
  rw [builtLists, List.getElem?_eq_getElem (by simpa using h), Option.getD_some,
    getElem_tidyLists inside, getElem_incidentRows]

section Valid

variable {edges : List Edge} (valid : ValidIds edges) {vertexCount : Nat}
  (large : idBound edges ≤ vertexCount)
include valid large

/-- Two vertices are adjacent when the input joins them, in either direction. -/
theorem adj_builtLists (edgeCount v w : Nat) :
    (ofLists edgeCount (builtLists vertexCount edges)).Adj v w ↔
      w ≠ v ∧ (((v : Int), (w : Int)) ∈ edges ∨ ((w : Int), (v : Int)) ∈ edges) := by
  rw [Adj, neighborList_ofLists]
  by_cases hv : v < vertexCount
  · rw [builtLists_getD hv, mem_tidyList, mem_incident, mem_endpoints valid, and_comm]
  · rw [List.getElem?_eq_none (by simpa [builtLists] using hv), Option.getD_none]
    constructor
    · intro hw
      exact absurd hw List.not_mem_nil
    · rintro ⟨-, joined⟩
      have := vertex_lt_of_mem_endpoints ((mem_endpoints valid v w).mpr joined)
      exact absurd (Nat.lt_of_lt_of_le this large) hv

theorem mem_builtLists_lt {edgeCount v w : Nat}
    (h : (ofLists edgeCount (builtLists vertexCount edges)).Adj v w) : w < vertexCount := by
  have joined := ((adj_builtLists valid large edgeCount v w).mp h).2
  exact Nat.lt_of_lt_of_le
    (vertex_lt_of_mem_endpoints ((mem_endpoints valid w v).mpr joined.symm)) large

theorem sum_builtLists :
    ∃ edgeCount, ((builtLists vertexCount edges).map List.length).sum = 2 * edgeCount := by
  have adj := adj_builtLists valid large 0
  have lists : ∀ v, (ofLists 0 (builtLists vertexCount edges)).neighborList v =
      (builtLists vertexCount edges)[v]?.getD [] := neighborList_ofLists 0 _
  have twice := sum_length_eq vertexCount
    (ofLists 0 (builtLists vertexCount edges)).neighborList
    (by
      intro v hv
      rw [lists, builtLists_getD hv]
      exact (ascending_tidyList v _).nodup)
    (fun v _ w hw => mem_builtLists_lt valid large hw)
    (fun v _ hv => ((adj v v).mp hv).1 rfl)
    (by
      intro v _ w hw
      obtain ⟨hne, joined⟩ := (adj v w).mp hw
      exact (adj w v).mpr ⟨hne.symm, joined.symm⟩)
  refine ⟨_, Eq.trans ?_ twice⟩
  congr 1
  apply List.ext_getElem
  · simp [builtLists]
  · intro v hv _
    rw [List.getElem_map, List.getElem_map, List.getElem_range, lists,
      List.getElem?_eq_getElem (by simpa using hv), Option.getD_some]

end Valid

/-- On ids that name vertices the passes give the graph of the built lists, unless one of the sizes is
no number of 64 bits. -/
theorem exists_build {edges : List Edge} (valid : ValidIds edges) (minimum : Nat) :
    ∃ edgeCount, ((builtLists (max (idBound edges) minimum) edges).map List.length).sum =
        2 * edgeCount ∧
      build edges minimum =
        if max (idBound edges) minimum + 1 < sizeLimit ∧ 2 * edges.length < sizeLimit then
          .ok (ofLists edgeCount (builtLists (max (idBound edges) minimum) edges))
        else .error .sumOverflow := by
  have bound := vertexBound_eq_ok_iff.mpr ⟨valid, rfl⟩
  generalize hn : max (idBound edges) minimum = n
  have large : idBound edges ≤ n := by omega
  have inside : ∀ e ∈ endpoints edges, e.vertex < n := fun e he => by
    have := vertex_lt_of_mem_endpoints he
    omega
  have counts := countEndpoints_eq inside
  obtain ⟨edgeCount, halves⟩ := sum_builtLists valid large
  refine ⟨edgeCount, halves, ?_⟩
  rw [build, bound, ok_bind]
  simp only [hn, counts, ok_bind]
  rw [prefixSums_eq, List.length_map, length_incidentRows, sum_incidentRows inside,
    endpoints_length]
  by_cases fits : n + 1 < sizeLimit ∧ 2 * edges.length < sizeLimit
  · have graph := ofRows_eq (incidentRows n (endpoints edges)) (by simpa using fits.1)
      (by rw [sum_incidentRows inside]; simpa using fits.2) halves
    rw [if_pos fits, ok_bind, scatter_eq inside, ok_bind, graph, if_pos fits]
    rfl
  · rw [if_neg fits, error_bind, if_neg fits]

/-- Both sums of degrees are at most the number of endpoints. -/
theorem exists_build_ok {edges : List Edge} (valid : ValidIds edges) {minimum : Nat}
    (few : (minimum : Int) ≤ largestId) (room : 2 * edges.length < sizeLimit) :
    ∃ g, build edges minimum = .ok g := by
  obtain ⟨edgeCount, -, made⟩ := exists_build valid minimum
  have small : max (idBound edges) minimum + 1 < sizeLimit := by
    have := idBound_le valid
    have : largestId.toNat + 1 < sizeLimit := by decide
    omega
  rw [if_pos ⟨small, room⟩] at made
  exact ⟨_, made⟩

/-- The construction fails exactly when an id is bad or a size is no number of 64 bits, and gives
the graph of the built lists otherwise. -/
theorem build_eq_ok_iff {edges : List Edge} {minimum : Nat} {g : Graph} :
    build edges minimum = .ok g ↔
      ValidIds edges ∧ max (idBound edges) minimum + 1 < sizeLimit ∧
        2 * edges.length < sizeLimit ∧
        ∃ edgeCount, ((builtLists (max (idBound edges) minimum) edges).map List.length).sum =
            2 * edgeCount ∧
          g = ofLists edgeCount (builtLists (max (idBound edges) minimum) edges) := by
  by_cases valid : ValidIds edges
  · obtain ⟨edgeCount, halves, made⟩ := exists_build valid minimum
    rw [made]
    split
    case isTrue fits =>
      rw [Except.ok.injEq]
      constructor
      · rintro rfl
        exact ⟨valid, fits.1, fits.2, edgeCount, halves, rfl⟩
      · rintro ⟨-, -, -, edgeCount', halves', rfl⟩
        obtain rfl : edgeCount = edgeCount' := by omega
        rfl
    case isFalse large => exact ⟨nofun, fun h => absurd ⟨h.2.1, h.2.2.1⟩ large⟩
  · refine ⟨fun h => ?_, fun h => absurd h.1 valid⟩
    obtain ⟨bound, hbound, -⟩ := bind_eq_ok.mp h
    exact absurd (vertexBound_eq_ok_iff.mp hbound).1 valid

theorem ofEdges_eq_ok_iff {edges : List Edge} {g : Graph} :
    ofEdges edges = .ok g ↔ edges ≠ [] ∧ build edges 0 = .ok g := by
  unfold ofEdges
  split
  case isTrue empty => exact ⟨nofun, fun h => absurd (List.isEmpty_iff.mp empty) h.1⟩
  case isFalse nonempty => simp [List.isEmpty_iff.not.mp nonempty]

/-- Whether the input joins two vertices, in either direction. -/
def Joined (edges : List Edge) (v w : Nat) : Prop :=
  ((v : Int), (w : Int)) ∈ edges ∨ ((w : Int), (v : Int)) ∈ edges

section Built

variable {edges : List Edge} {minimum : Nat} {g : Graph} (built : build edges minimum = .ok g)
include built

theorem vertexCount_of_build : g.vertexCount = max (idBound edges) minimum := by
  obtain ⟨-, -, -, edgeCount, -, rfl⟩ := build_eq_ok_iff.mp built
  simp [builtLists]

theorem adj_of_build (v w : Nat) : g.Adj v w ↔ w ≠ v ∧ Joined edges v w := by
  obtain ⟨valid, -, -, edgeCount, -, rfl⟩ := build_eq_ok_iff.mp built
  exact adj_builtLists valid (Nat.le_max_left _ _) edgeCount v w

theorem wellFormed_of_build (few : minimum ≤ largestId.toNat) : g.WellFormed := by
  have adj := adj_of_build built
  obtain ⟨valid, -, room, edgeCount, halves, rfl⟩ := build_eq_ok_iff.mp built
  refine wellFormed_ofLists halves ?_ ?_ ?_ ?_ ?_
  · intro ns hns
    obtain ⟨v, hv, rfl⟩ := List.mem_iff_getElem.mp hns
    rw [builtLists, length_tidyLists] at hv
    simp only [builtLists, getElem_tidyLists hv]
    exact ascending_tidyList _ _
  · exact fun v hv => ((adj v v).mp hv).1 rfl
  · intro v w hvw
    obtain ⟨hne, joined⟩ := (adj v w).mp hvw
    exact (adj w v).mpr ⟨hne.symm, joined.symm⟩
  · have := idBound_le valid
    rw [builtLists, length_tidyLists, length_incidentRows]
    omega
  · refine Nat.lt_of_le_of_lt (sum_tidyLists_le _) ?_
    rw [sum_incidentRows, endpoints_length]
    · exact room
    · intro e he
      have := vertex_lt_of_mem_endpoints he
      omega

/-- The edges are the unordered pairs of the input that are no loops. -/
theorem edgeCount_of_build (few : minimum ≤ largestId.toNat) :
    g.edgeCount =
      ((edges.map fun e => s(e.1, e.2)).toFinset.filter fun p => ¬ p.IsDiag).card := by
  have wf := wellFormed_of_build built few
  have adj := adj_of_build built
  obtain ⟨valid, -⟩ := build_eq_ok_iff.mp built
  have image : ((edges.map fun e => s(e.1, e.2)).toFinset.filter fun p => ¬ p.IsDiag) =
      g.edgePairs.image fun p => s((p.1 : Int), (p.2 : Int)) := by
    ext p
    simp only [Finset.mem_filter, List.mem_toFinset, List.mem_map, Finset.mem_image, Prod.exists,
      wf.mem_edgePairs, adj]
    constructor
    · rintro ⟨⟨a, b, hab, rfl⟩, distinct⟩
      rw [Sym2.mk_isDiag_iff] at distinct
      obtain ⟨⟨ha, -⟩, hb, -⟩ := valid _ hab
      obtain ⟨v, rfl⟩ := Int.eq_ofNat_of_zero_le ha
      obtain ⟨w, rfl⟩ := Int.eq_ofNat_of_zero_le hb
      rcases Nat.lt_or_gt_of_ne (fun h : v = w => distinct (congrArg Nat.cast h)) with hlt | hgt
      · exact ⟨v, w, ⟨hlt, by omega, .inl hab⟩, rfl⟩
      · exact ⟨w, v, ⟨hgt, by omega, .inr hab⟩, Sym2.eq_swap⟩
    · rintro ⟨v, w, ⟨hlt, -, joined⟩, rfl⟩
      refine ⟨?_, by rw [Sym2.mk_isDiag_iff]; omega⟩
      rcases joined with hvw | hwv
      · exact ⟨v, w, hvw, rfl⟩
      · exact ⟨w, v, hwv, Sym2.eq_swap⟩
  rw [image, Finset.card_image_of_injOn, wf.card_edgePairs]
  rintro ⟨v, w⟩ hvw ⟨v', w'⟩ hvw' same
  rw [Finset.mem_coe, wf.mem_edgePairs] at hvw hvw'
  simp only [Sym2.eq_iff] at same
  rcases same with ⟨hv, hw⟩ | ⟨hv, hw⟩
  · exact Prod.ext (by exact_mod_cast hv) (by exact_mod_cast hw)
  · omega

end Built

/-- What a graph has to be to represent a list of pairs on at least `minimum` vertices. -/
structure Represents (g : Graph) (edges : List Edge) (minimum : Nat) : Prop where
  vertexCount : g.vertexCount = max minimum (edges.toFinset.sup fun e => (max e.1 e.2).toNat + 1)
  neighbors : ∀ v < g.vertexCount, ∃ ns, g.neighborsOf v = .ok ns ∧ Ascending ns.toList ∧
    ∀ w : Nat, w ∈ ns ↔ w ≠ v ∧ (((v : Int), (w : Int)) ∈ edges ∨ ((w : Int), (v : Int)) ∈ edges)
  offsetCount : g.rowOffsets.size = g.vertexCount + 1
  first : g.rowOffsets[0]? = some 0
  lengths : ∀ v < g.vertexCount, ∃ ns start, g.neighborsOf v = .ok ns ∧
    g.degrees[v]? = some ns.size ∧ g.rowOffsets[v]? = some start ∧
    g.rowOffsets[v + 1]? = some (start + ns.size)
  last : g.rowOffsets[g.vertexCount]? = some g.neighbors.size
  halves : g.neighbors.size = 2 * g.edgeCount
  edgeCount : g.edgeCount =
    ((edges.map fun e => s(e.1, e.2)).toFinset.filter fun p => ¬ p.IsDiag).card
  hasEdge : ∀ u < g.vertexCount, ∃ ns, g.neighborsOf u = .ok ns ∧
    ∀ w : Int, g.hasEdge u w = .ok (decide (w ∈ ns.toList.map Int.ofNat))
  edges : ∃ es, g.edges = .ok es ∧ es.Pairwise (Prod.Lex (· < ·) (· < ·)) ∧
    ∀ a b, (a, b) ∈ es ↔ a < b ∧ ((a, b) ∈ edges ∨ (b, a) ∈ edges)

theorem represents_of_build {edges : List Edge} {minimum : Nat} {g : Graph}
    (built : build edges minimum = .ok g) (few : minimum ≤ largestId.toNat) :
    g.Represents edges minimum := by
  have wf := wellFormed_of_build built few
  have adj := adj_of_build built
  have valid := (build_eq_ok_iff.mp built).1
  refine ⟨?_, ?_, wf.size_rowOffsets, ?_, ?_, ?_, wf.halves, edgeCount_of_build built few, ?_, ?_⟩
  · rw [vertexCount_of_build built, max_comm, idBound]
  · exact fun v hv => ⟨_, wf.neighborsOf_eq hv, wf.ascending v hv, fun w => by
      simpa [Adj, Joined] using adj v w⟩
  · rw [wf.rowOffsets_getElem? (Nat.zero_le _), List.take_zero, List.sum_nil]
  · exact fun v hv => ⟨_, _, wf.neighborsOf_eq hv, wf.degrees_getElem? hv,
      wf.rowOffsets_getElem? (Nat.le_of_lt hv), wf.rowOffsets_succ hv⟩
  · exact wf.rowOffsets_last
  · exact fun u hu => ⟨_, wf.neighborsOf_eq hu, wf.hasEdge_eq hu⟩
  · refine ⟨_, wf.edges_eq, wf.pairwise_edgeList, fun a b => ?_⟩
    rw [wf.mem_edgeList]
    constructor
    · rintro ⟨v, w, rfl, rfl, hlt, hvw⟩
      exact ⟨Int.ofNat_lt.mpr hlt, ((adj v w).mp hvw).2⟩
    · rintro ⟨hlt, joined⟩
      have nonneg : 0 ≤ a ∧ 0 ≤ b := by
        rcases joined with he | he
        · exact ⟨(valid _ he).1.1, (valid _ he).2.1⟩
        · exact ⟨(valid _ he).2.1, (valid _ he).1.1⟩
      obtain ⟨v, rfl⟩ := Int.eq_ofNat_of_zero_le nonneg.1
      obtain ⟨w, rfl⟩ := Int.eq_ofNat_of_zero_le nonneg.2
      have hlt := Int.ofNat_lt.mp hlt
      exact ⟨v, w, rfl, rfl, hlt, (adj v w).mpr ⟨by omega, joined⟩⟩

/-- Building a list of good ids succeeds and represents the list; both constructors are builds. -/
theorem build_represents {edges : List Edge} {minimum : Nat} (valid : ValidIds edges)
    (few : (minimum : Int) ≤ largestId) :
    (2 * edges.length < sizeLimit → ∃ g, build edges minimum = .ok g) ∧
      (∀ g, build edges minimum = .ok g → g.Represents edges minimum) ∧
      (edges ≠ [] → minimum = 0 → ofEdges edges = build edges minimum) ∧
      ∀ lists, listedEdges lists = edges → lists.length = minimum →
        ofAdjacency lists = build edges minimum := by
  refine ⟨exists_build_ok valid few, fun g built => represents_of_build built (by omega), ?_, ?_⟩
  · rintro nonempty rfl
    rw [ofEdges, if_neg (by simpa using nonempty)]
  · rintro lists rfl rfl
    rw [ofAdjacency, if_neg (by omega)]

theorem build_represents_loop_and_repetition :
    ∃ g, build [(1, 0), (0, 1), (1, 1), (3, 1)] 6 = .ok g ∧
      g.Represents [(1, 0), (0, 1), (1, 1), (3, 1)] 6 ∧ g.vertexCount = 6 := by
  obtain ⟨succeeds, represents, -⟩ := build_represents
    (show ValidIds [(1, 0), (0, 1), (1, 1), (3, 1)] by decide)
    (show ((6 : Nat) : Int) ≤ largestId by decide)
  obtain ⟨g, built⟩ := succeeds (by decide)
  exact ⟨g, built, represents g built, (represents g built).vertexCount.trans (by decide)⟩

end Motif.Graph
