import Motif.Proofs.Graph.Constructed
import Motif.Proofs.Matching.VisitOrder

/-!
# The greedy choice

Each vertex of the order leads all that are left when it is visited. If it has no visited neighbor,
then no vertex that is left has one, so the vertices visited by then are closed under adjacency.
That is why a component that has been begun is finished before another one is.
-/

set_option autoImplicit false

namespace Motif.Graph

/-- Joined by a path, which may be empty. -/
def Connected (g : Graph) : Nat → Nat → Prop := Relation.ReflTransGen g.Adj

namespace Connected

variable {g : Graph} {u v : Nat}

theorem symm (wf : g.WellFormed) (h : g.Connected u v) : g.Connected v u := by
  induction h with
  | refl => exact .refl
  | tail _ hab ih => exact .head (wf.symmetric _ _ hab) ih

/-- A path does not leave vertices that are closed under adjacency. -/
theorem mem_of_closed {visited : List Nat} (h : g.Connected u v)
    (closed : ∀ a ∈ visited, ∀ b, g.Adj a b → b ∈ visited) (hu : u ∈ visited) : v ∈ visited := by
  induction h with
  | refl => exact hu
  | tail _ hab ih => exact closed _ ih _ hab

end Connected

end Motif.Graph

namespace Motif.Matching.VisitOrder

/-- What decides between two vertices: the links, then the degree, then the id. -/
def Standing.Leads (a b : Standing) : Prop :=
  b.links < a.links ∨ a.links = b.links ∧
    (b.degree < a.degree ∨ a.degree = b.degree ∧ a.vertex < b.vertex)

theorem Standing.Leads.trans {a b c : Standing} (hab : a.Leads b) (hbc : b.Leads c) :
    a.Leads c := by
  unfold Leads at *
  omega

theorem Standing.leads_of_beats {a b : Standing} (h : a.beats b = true) : a.Leads b := by
  unfold beats at h
  simp only [Bool.or_eq_true, Bool.and_eq_true, decide_eq_true_iff, beq_iff_eq] at h
  unfold Leads
  omega

theorem Standing.leads_of_not_beats {a b : Standing} (h : ¬ b.beats a = true)
    (before : a.vertex < b.vertex) : a.Leads b := by
  unfold beats at h
  simp only [Bool.or_eq_true, Bool.and_eq_true, decide_eq_true_iff, beq_iff_eq] at h
  unfold Leads
  omega

theorem foldl_leads (a : Standing) (as : List Standing)
    (ascending : (a :: as).Pairwise fun b c => b.vertex < c.vertex) :
    ∀ b ∈ a :: as, b = as.foldl (fun b c => if c.beats b then c else b) a ∨
      (as.foldl (fun b c => if c.beats b then c else b) a).Leads b := by
  induction as generalizing a with
  | nil =>
    intro b hb
    exact .inl (List.mem_singleton.mp hb)
  | cons c as ih =>
    obtain ⟨behind, rest⟩ := List.pairwise_cons.mp ascending
    rw [List.foldl_cons]
    by_cases wins : c.beats a = true
    · rw [if_pos wins]
      have later := ih c rest
      intro b hb
      rcases List.mem_cons.mp hb with rfl | hb
      · -- the first standing is led by the second, and that by the last winner
        right
        rcases later c List.mem_cons_self with same | leads
        · rw [← same]
          exact Standing.leads_of_beats wins
        · exact leads.trans (Standing.leads_of_beats wins)
      · exact later b hb
    · rw [if_neg wins]
      have later := ih a <| List.pairwise_cons.mpr
        ⟨fun b hb => behind b (List.mem_cons_of_mem c hb), (List.pairwise_cons.mp rest).2⟩
      have leads := Standing.leads_of_not_beats wins (behind c List.mem_cons_self)
      intro b hb
      rcases List.mem_cons.mp hb with rfl | hb
      · exact later b List.mem_cons_self
      · rcases List.mem_cons.mp hb with rfl | hb
        · right
          rcases later a List.mem_cons_self with same | leads'
          · rw [← same]
            exact leads
          · exact leads'.trans leads
        · exact later b (List.mem_cons_of_mem a hb)

theorem best_leads {standings : List Standing} {s : Standing} (h : best standings = some s)
    (ascending : standings.Pairwise fun b c => b.vertex < c.vertex) :
    ∀ b ∈ standings, b = s ∨ s.Leads b := by
  cases standings with
  | nil => cases h
  | cons a as =>
    rw [best, Option.some.injEq] at h
    exact h ▸ foldl_leads a as ascending

/-- At every depth of the order stands the vertex that leads all those left. -/
def Greedy (g : Graph) (order : List Nat) : Prop :=
  ∀ k v, order[k]? = some v → ∀ w < g.vertexCount, w ∉ order.take k →
    w = v ∨ (standing g (order.take k) v).Leads (standing g (order.take k) w)

theorem greedy_nil (g : Graph) : Greedy g [] := by
  intro k v hv
  rw [List.getElem?_nil] at hv
  cases hv

theorem Greedy.snoc {g : Graph} {order : List Nat} {v : Nat} (h : Greedy g order)
    (leads : ∀ w < g.vertexCount, w ∉ order → w = v ∨ (standing g order v).Leads (standing g order w)) :
    Greedy g (order ++ [v]) := by
  intro k u hu
  rcases Nat.lt_trichotomy k order.length with before | rfl | behind
  · rw [List.getElem?_append_left before] at hu
    rw [List.take_append_of_le_length (Nat.le_of_lt before)]
    exact h k u hu
  · rw [List.getElem?_append_right (Nat.le_refl _), Nat.sub_self] at hu
    cases hu
    rw [List.take_append_of_le_length (Nat.le_refl _), List.take_length]
    exact leads
  · rw [List.getElem?_eq_none (by rw [List.length_append, List.length_singleton]; omega)] at hu
    cases hu

section Run

variable {g : Graph} (wf : g.WellFormed)

theorem pairwise_standings {w : Walk} :
    ((unvisited g w).map (standing g w.order.toList)).Pairwise fun b c => b.vertex < c.vertex := by
  rw [List.pairwise_map]
  exact List.pairwise_lt_range.filter _

include wf

theorem Walk.Reached.greedy_of_run {w w' : Walk} {steps : Nat} (h : w.Reached g)
    (greedy : Greedy g w.order.toList) (run : Walk.run g steps w = .ok w') :
    Greedy g w'.order.toList := by
  induction steps generalizing w with
  | zero =>
    cases run
    exact greedy
  | succ steps ih =>
    rcases h.run_succ wf steps with ⟨-, ended⟩ | ⟨v, next, hv, chosen, h', pushed, goesOn⟩
    · rw [ended] at run
      cases run
      exact greedy
    · rw [goesOn] at run
      refine ih h' ?_ run
      rw [pushed, Array.toList_push]
      apply greedy.snoc
      intro u hu fresh
      have left : u ∈ unvisited g w := mem_unvisited.mpr ⟨hu, fresh⟩
      rcases best_leads chosen pairwise_standings _ (List.mem_map_of_mem left) with same | leads
      · exact .inl (congrArg Standing.vertex same)
      · exact .inr leads

theorem greedy_of_ofPattern {o : VisitOrder} (ordered : ofPattern g = .ok o) :
    Greedy g o.order.toList := by
  obtain ⟨w, run, ordered⟩ := bind_eq_ok.mp ordered
  obtain ⟨degrees, -, ordered⟩ := bind_eq_ok.mp ordered
  obtain ⟨splits, -, ordered⟩ := bind_eq_ok.mp ordered
  cases ordered
  exact Walk.reached_start.greedy_of_run wf (greedy_nil g) run

end Run

theorem mem_take_iff {order : List Nat} {k u : Nat} :
    u ∈ order.take k ↔ ∃ j < k, order[j]? = some u := by
  rw [List.mem_iff_getElem?]
  apply exists_congr
  intro j
  rw [List.getElem?_take]
  by_cases hj : j < k
  · rw [if_pos hj]
    exact ⟨fun hu => ⟨hj, hu⟩, And.right⟩
  · rw [if_neg hj]
    exact ⟨nofun, fun hu => absurd hu.1 hj⟩

section Components

variable {g : Graph} {order : List Nat} {i j k u v w : Nat}

/-- A depth whose vertex has no neighbor before it. -/
def Begins (g : Graph) (order : List Nat) (k : Nat) : Prop :=
  ∃ v, order[k]? = some v ∧ ∀ u ∈ order.take k, ¬ g.Adj u v

/-- Every vertex is connected to one that begins, at its depth or before. -/
theorem exists_begins (hv : order[k]? = some v) :
    ∃ i u, i ≤ k ∧ order[i]? = some u ∧ Begins g order i ∧ g.Connected u v := by
  induction k using Nat.strong_induction_on generalizing v with
  | _ k ih =>
    by_cases begins : ∀ u ∈ order.take k, ¬ g.Adj u v
    · exact ⟨k, v, Nat.le_refl k, hv, ⟨v, hv, begins⟩, .refl⟩
    · push Not at begins
      obtain ⟨u, hu, adj⟩ := begins
      obtain ⟨j, before, hj⟩ := mem_take_iff.mp hu
      obtain ⟨i, a, le, ha, begins, path⟩ := ih j before hj
      exact ⟨i, a, by omega, ha, begins, path.tail adj⟩

namespace Greedy

variable (wf : g.WellFormed) (greedy : Greedy g order)
include wf greedy

/-- What is visited when a depth begins is closed under adjacency. -/
theorem closed (begins : Begins g order k) :
    ∀ a ∈ order.take k, ∀ b, g.Adj a b → b ∈ order.take k := by
  obtain ⟨v, hv, alone⟩ := begins
  intro a ha b hab
  by_contra left
  have links : 0 < (standing g (order.take k) b).links :=
    List.countP_pos_iff.mpr ⟨a, ha, decide_eq_true hab⟩
  have none : (standing g (order.take k) v).links = 0 :=
    List.countP_eq_zero.mpr fun u hu => by simpa using alone u hu
  rcases greedy k v hv b (wf.lt_of_adj' hab) left with rfl | leads
  · exact alone a ha hab
  · -- the vertex visited next has the most links
    unfold Standing.Leads at leads
    omega

variable (distinct : order.Nodup)
include distinct

omit wf greedy in
theorem lt_of_mem_take (hv : order[k]? = some v) (mem : v ∈ order.take i) : k < i := by
  obtain ⟨j, before, hj⟩ := mem_take_iff.mp mem
  obtain ⟨hk, rfl⟩ := List.getElem?_eq_some_iff.mp hv
  obtain ⟨hj', same⟩ := List.getElem?_eq_some_iff.mp hj
  rw [distinct.getElem_inj_iff] at same
  omega

/-- A component that has been begun is finished before another begins. -/
theorem lt_of_connected (begins : Begins g order k) (before : i < k) (hu : order[i]? = some u)
    (hv : order[j]? = some v) (path : g.Connected u v) : j < k :=
  lt_of_mem_take distinct hv
    (path.mem_of_closed (greedy.closed wf begins) (mem_take_iff.mpr ⟨i, before, hu⟩))

theorem connected_between (hij : i ≤ j) (hjk : j ≤ k) (hu : order[i]? = some u)
    (hv : order[j]? = some v) (hw : order[k]? = some w) (path : g.Connected u w) :
    g.Connected u v := by
  obtain ⟨e, a, le, ha, begins, begun⟩ := exists_begins (g := g) hu
  obtain ⟨f, b, le', hb, begins', begun'⟩ := exists_begins (g := g) hv
  rcases Nat.lt_trichotomy e f with before | rfl | behind
  · have := greedy.lt_of_connected wf distinct begins' before ha hw (begun.trans path)
    omega
  · rw [ha, Option.some.injEq] at hb
    subst hb
    exact (begun.symm wf).trans begun'
  · have := greedy.lt_of_connected wf distinct begins behind hb hv begun'
    omega

theorem begins_iff (hv : order[k]? = some v) :
    Begins g order k ↔ ∀ j < k, ∀ u, order[j]? = some u → ¬ g.Connected u v := by
  constructor
  · intro begins j before u hu path
    exact Nat.lt_irrefl k (greedy.lt_of_connected wf distinct begins before hu hv path)
  · intro apart
    refine ⟨v, hv, fun u hu adj => ?_⟩
    obtain ⟨j, before, hj⟩ := mem_take_iff.mp hu
    exact apart j before u hj (.single adj)

end Greedy

end Components

section Depths

variable {g : Graph} {order : Array Nat} {k v : Nat}

theorem joined_eq_nil_iff (hv : order[k]? = some v) :
    joined g order k v = [] ↔ Begins g order.toList k := by
  constructor
  · intro none
    refine ⟨v, by rw [Array.getElem?_toList]; exact hv, fun u hu adj => ?_⟩
    obtain ⟨j, before, hj⟩ := mem_take_iff.mp hu
    rw [Array.getElem?_toList] at hj
    exact List.not_mem_nil (none ▸ mem_joined.mpr ⟨before, u, hj, adj⟩)
  · rintro ⟨v', hv', alone⟩
    rw [Array.getElem?_toList, hv, Option.some.injEq] at hv'
    subst hv'
    rw [List.eq_nil_iff_forall_not_mem]
    intro j hj
    obtain ⟨before, u, hu, adj⟩ := mem_joined.mp hj
    exact alone u (mem_take_iff.mpr ⟨j, before, by rw [Array.getElem?_toList]; exact hu⟩) adj

theorem joined_append_apart (hk : k ≤ order.size) :
    (joined g order k v ++ apart g order k v).Perm (List.range k) := by
  have others : apart g order k v =
      (List.range k).filter fun j => !decide (∃ u ∈ order[j]?, g.Adj u v) := by
    apply List.filter_congr
    intro j hj
    have inside : j < order.size := Nat.lt_of_lt_of_le (List.mem_range.mp hj) hk
    simp [Array.getElem?_eq_getElem inside]
  rw [others]
  exact List.filter_append_perm _ _

end Depths

/-- The order of a pattern is a permutation of its vertices in which each leads those that are left
when it is visited. A depth knows the degree of its vertex and which earlier depths hold neighbors
of it and which do not. The depths of a component are an interval, and only at the first of them
there is no earlier neighbor. -/
theorem ofPattern_visits_greedily {pattern : Graph} (made : pattern.Constructed) :
    ∃ o, ofPattern pattern = .ok o ∧ o.order.toList.Perm (List.range pattern.vertexCount) ∧
      Greedy pattern o.order.toList ∧
      (∀ k v : Nat, o.order[k]? = some v →
        (∃ d, o.degrees[k]? = some d ∧ pattern.degreeOf v = .ok d) ∧
        ∃ neighbors strangers : List Nat, o.earlierNeighbors[k]? = some neighbors ∧
          o.earlierStrangers[k]? = some strangers ∧
          neighbors.Pairwise (· < ·) ∧ strangers.Pairwise (· < ·) ∧
          (neighbors ++ strangers).Perm (List.range k) ∧
          (∀ j < k, ∀ u, o.order[j]? = some u →
            (j ∈ neighbors ↔ pattern.Adj u v) ∧ (j ∈ strangers ↔ ¬ pattern.Adj u v)) ∧
          (neighbors = [] ↔ ∀ j < k, ∀ u, o.order[j]? = some u → ¬ pattern.Connected u v)) ∧
      ∀ i j k u v w : Nat, i ≤ j → j ≤ k → o.order[i]? = some u → o.order[j]? = some v →
        o.order[k]? = some w → pattern.Connected u w → pattern.Connected u v := by
  have wf := made.wellFormed
  obtain ⟨o, ordered, visits⟩ := ofPattern_spec wf
  have greedy := greedy_of_ofPattern wf ordered
  have distinct : o.order.toList.Nodup := visits.permutes.nodup_iff.mpr List.nodup_range
  refine ⟨o, ordered, visits.permutes, greedy, fun k v hv => ⟨?_, ?_⟩, ?_⟩
  · have inside : v < pattern.vertexCount := by
      rw [← Graph.mem_vertices, ← visits.permutes.mem_iff]
      exact Array.mem_toList_iff.mpr (Array.mem_of_getElem? hv)
    exact ⟨_, visits.degrees k v hv, wf.degreeOf_eq inside⟩
  · refine ⟨_, _, visits.neighbors k v hv, visits.strangers k v hv,
      List.pairwise_lt_range.filter _, List.pairwise_lt_range.filter _, ?_, ?_, ?_⟩
    · exact joined_append_apart (Nat.le_of_lt (Array.getElem?_eq_some_iff.mp hv).1)
    · intro j before u hu
      simp [mem_joined, mem_apart, before, hu]
    · rw [joined_eq_nil_iff hv, greedy.begins_iff wf distinct (by simpa using hv)]
      simp only [Array.getElem?_toList]
  · intro i j k u v w hij hjk hu hv hw
    exact greedy.connected_between wf distinct hij hjk (by simpa using hu) (by simpa using hv)
      (by simpa using hw)

/-- A path of three vertices beside an edge: the path comes first, from its middle. -/
theorem ofPattern_visits_greedily_apart : ∃ (pattern : Graph) (o : VisitOrder),
    Graph.ofAdjacency [[1], [0], [3, 4], [2], [2]] = .ok pattern ∧ ofPattern pattern = .ok o ∧
      o.order = #[2, 3, 4, 0, 1] ∧
      (standing pattern [2, 3] 4).Leads (standing pattern [2, 3] 0) ∧
      (standing pattern [2, 3, 4] 0).Leads (standing pattern [2, 3, 4] 1) ∧
      o.earlierNeighbors[3]? = some [] ∧ ¬ pattern.Connected 2 0 ∧
      (pattern.Connected 2 4 → pattern.Connected 2 3) := by
  have pattern : Graph.ofAdjacency [[1], [0], [3, 4], [2], [2]] =
      .ok ⟨3, #[0, 1, 2, 4, 5, 6], #[1, 0, 3, 4, 2, 2], #[1, 1, 2, 1, 1]⟩ := by cbv
  have order : ofPattern ⟨3, #[0, 1, 2, 4, 5, 6], #[1, 0, 3, 4, 2, 2], #[1, 1, 2, 1, 1]⟩ =
      .ok ⟨#[2, 3, 4, 0, 1], #[2, 1, 1, 1, 1], #[[], [0], [0], [], [3]],
        #[[], [], [1], [0, 1, 2], [0, 1, 2]]⟩ := by cbv
  obtain ⟨o, ordered, -, greedy, depths, between⟩ := ofPattern_visits_greedily (.ofAdjacency pattern)
  rw [order, Except.ok.injEq] at ordered
  subst ordered
  obtain ⟨-, neighbors, strangers, recorded, -, -, -, -, -, begins⟩ := depths 3 0 rfl
  obtain rfl : [] = neighbors := by simpa using recorded
  refine ⟨_, _, pattern, order, rfl, ?_, ?_, rfl, begins.mp rfl 0 (by decide) 2 rfl, ?_⟩
  · exact (greedy 2 4 rfl 0 (by decide) (by decide)).resolve_left (by decide)
  · exact (greedy 3 0 rfl 1 (by decide) (by decide)).resolve_left (by decide)
  · exact between 0 1 2 2 3 4 (by decide) (by decide) rfl rfl rfl

end Motif.Matching.VisitOrder
