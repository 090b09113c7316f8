import Motif.Proofs.Graph.Build

/-!
# Adjacency lists

Lists are built through the pairs they stand for, so a graph joins what either list of two vertices
names, and has a vertex for every list and every entry.
-/

set_option autoImplicit false

namespace Motif.Graph

/-- All ids of a list of edges. -/
def ids (edges : List Edge) : List Int := edges.flatMap fun e => [e.1, e.2]

theorem mem_ids {edges : List Edge} {id : Int} :
    id ∈ ids edges ↔ ∃ e ∈ edges, id = e.1 ∨ id = e.2 := by
  simp only [ids, List.mem_flatMap, List.mem_cons, List.not_mem_nil, or_false]

theorem mem_ids_append {xs ys : List Edge} {id : Int} :
    id ∈ ids (xs ++ ys) ↔ id ∈ ids xs ∨ id ∈ ids ys := by
  rw [ids, List.flatMap_append, List.mem_append]
  rfl

theorem validIds_iff {edges : List Edge} :
    ValidIds edges ↔ ∀ id ∈ ids edges, 0 ≤ id ∧ id < largestId := by
  constructor
  · intro valid id hid
    obtain ⟨e, he, rfl | rfl⟩ := mem_ids.mp hid
    · exact (valid e he).1
    · exact (valid e he).2
  · intro valid e he
    exact ⟨valid _ (mem_ids.mpr ⟨e, he, .inl rfl⟩), valid _ (mem_ids.mpr ⟨e, he, .inr rfl⟩)⟩

theorem toNat_lt_idBound {edges : List Edge} {id : Int} (hid : id ∈ ids edges) :
    id.toNat < idBound edges := by
  obtain ⟨e, he, rfl | rfl⟩ := mem_ids.mp hid
  · exact (lt_idBound he).1
  · exact (lt_idBound he).2

/-- One more than the largest entry, and `0` if there is none. -/
def entryBound (lists : List (List Int)) : Nat :=
  lists.flatten.toFinset.sup fun id => id.toNat + 1

/-- List `a` names `b`. -/
def Lists (lists : List (List Int)) (a b : Nat) : Prop := ∃ ns, lists[a]? = some ns ∧ (b : Int) ∈ ns

section Pairs

variable {lists : List (List Int)}

theorem mem_listedEdges {a b : Int} :
    (a, b) ∈ listedEdges lists ↔ ∃ (u : Nat) (ns : List Int), a = u ∧ lists[u]? = some ns ∧ b ∈ ns := by
  simp only [listedEdges, List.mem_flatMap, List.mem_map, Prod.mk.injEq, Prod.exists,
    List.mem_zipIdx_iff_getElem?]
  constructor
  · rintro ⟨ns, u, hns, b, hb, rfl, rfl⟩
    exact ⟨u, ns, rfl, hns, hb⟩
  · rintro ⟨u, ns, rfl, hns, hb⟩
    exact ⟨ns, u, hns, b, hb, rfl, rfl⟩

theorem length_listedEdges : (listedEdges lists).length = lists.flatten.length := by
  have lengths : lists.zipIdx.map (fun l => l.1.length) = lists.map List.length := by
    conv_rhs => rw [← List.zipIdx_map_fst 0 lists, List.map_map]
    rfl
  simp only [listedEdges, List.length_flatMap, List.length_map, lengths, List.length_flatten]

theorem mem_ids_listedEdges {id : Int} (hid : id ∈ ids (listedEdges lists)) :
    (0 ≤ id ∧ id < lists.length) ∨ id ∈ lists.flatten := by
  obtain ⟨⟨a, b⟩, he, here⟩ := mem_ids.mp hid
  obtain ⟨u, ns, rfl, hns, hb⟩ := mem_listedEdges.mp he
  rcases here with rfl | rfl
  · have := (List.getElem?_eq_some_iff.mp hns).1
    left
    constructor <;> dsimp only <;> omega
  · right
    exact List.mem_flatten.mpr ⟨ns, List.mem_of_getElem? hns, hb⟩

theorem mem_ids_of_mem_flatten {id : Int} (hid : id ∈ lists.flatten) :
    id ∈ ids (listedEdges lists) := by
  obtain ⟨ns, hns, hid⟩ := List.mem_flatten.mp hid
  obtain ⟨u, hu⟩ := List.mem_iff_getElem?.mp hns
  exact mem_ids.mpr ⟨((u : Int), id), mem_listedEdges.mpr ⟨u, ns, rfl, hu, hid⟩, .inr rfl⟩

/-- The number of a list passes every test that numbers of vertices pass. -/
theorem exists_mem_ids_listedEdges {bad : Int → Prop}
    (good : ∀ id : Int, 0 ≤ id → id < lists.length → ¬ bad id) :
    (∃ id ∈ ids (listedEdges lists), bad id) ↔ ∃ id ∈ lists.flatten, bad id := by
  constructor
  · rintro ⟨id, hid, hbad⟩
    rcases mem_ids_listedEdges hid with ⟨nonneg, below⟩ | listed
    · exact absurd hbad (good id nonneg below)
    · exact ⟨id, listed, hbad⟩
  · rintro ⟨id, hid, hbad⟩
    exact ⟨id, mem_ids_of_mem_flatten hid, hbad⟩

theorem joined_listedEdges (a b : Nat) :
    Joined (listedEdges lists) a b ↔ Lists lists a b ∨ Lists lists b a := by
  have one (a b : Nat) : ((a : Int), (b : Int)) ∈ listedEdges lists ↔ Lists lists a b := by
    rw [mem_listedEdges]
    constructor
    · rintro ⟨u, ns, hu, hns, hb⟩
      rw [Int.ofNat_inj] at hu
      exact ⟨ns, hu ▸ hns, hb⟩
    · rintro ⟨ns, hns, hb⟩
      exact ⟨a, ns, rfl, hns, hb⟩
  rw [Joined, one, one]

theorem max_idBound_listedEdges :
    max (idBound (listedEdges lists)) lists.length = max lists.length (entryBound lists) := by
  have entries : entryBound lists ≤ idBound (listedEdges lists) := by
    apply Finset.sup_le
    intro id hid
    exact toNat_lt_idBound (mem_ids_of_mem_flatten (List.mem_toFinset.mp hid))
  have all : idBound (listedEdges lists) ≤ max lists.length (entryBound lists) := by
    apply Finset.sup_le
    rintro ⟨a, b⟩ he
    obtain ⟨u, ns, rfl, hns, hb⟩ := mem_listedEdges.mp (List.mem_toFinset.mp he)
    have vertex := (List.getElem?_eq_some_iff.mp hns).1
    have entry : b.toNat + 1 ≤ entryBound lists :=
      Finset.le_sup (f := fun id : Int => id.toNat + 1)
        (List.mem_toFinset.mpr (List.mem_flatten.mpr ⟨ns, List.mem_of_getElem? hns, hb⟩))
    dsimp only
    omega
  omega

end Pairs

section Built

variable {lists : List (List Int)} {h : Graph} (made : ofAdjacency lists = .ok h)
include made

theorem ofAdjacency_eq_ok :
    lists.length ≤ largestId.toNat ∧ build (listedEdges lists) lists.length = .ok h := by
  unfold ofAdjacency at made
  split at made
  case isTrue => cases made
  case isFalse few => exact ⟨by omega, made⟩

theorem vertexCount_of_ofAdjacency : h.vertexCount = max lists.length (entryBound lists) := by
  rw [vertexCount_of_build (ofAdjacency_eq_ok made).2, max_idBound_listedEdges]

theorem adj_of_ofAdjacency (a b : Nat) :
    h.Adj a b ↔ a ≠ b ∧ (Lists lists a b ∨ Lists lists b a) := by
  rw [adj_of_build (ofAdjacency_eq_ok made).2, joined_listedEdges, ne_comm]

end Built

end Motif.Graph
