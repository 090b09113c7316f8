import Motif.Proofs.Intersection.Merge

/-!
# Repeated values

On lists that need not ascend strictly, the plain merge and the merge by single comparisons still
take the same steps; the latter only stops earlier, when a head lies above the last element of the
other side. Where both lists are in order nothing is shared from there on, so both tell the
intersection of the lists with its multiplicities. The comparisons do not prefer a side.
-/

set_option autoImplicit false

namespace Motif.Sorted

variable {α : Type} [LT α] [DecidableLT α] [DecidableEq α] {xs ys : List α}

theorem common_sublist_left (xs ys : List α) : (common xs ys).Sublist xs := by
  fun_induction common xs ys with
  | case1 => exact List.Sublist.refl _
  | case2 => exact List.nil_sublist _
  | case3 x xs y ys hlt ih => exact ih.cons x
  | case4 xs x ys hlt ih => exact ih.cons_cons x
  | case5 x xs y ys hlt hne ih => exact ih

theorem common_sublist_right (xs ys : List α) : (common xs ys).Sublist ys := by
  fun_induction common xs ys with
  | case1 => exact List.nil_sublist _
  | case2 => exact List.Sublist.refl _
  | case3 x xs y ys hlt ih => exact ih
  | case4 xs x ys hlt ih => exact ih.cons_cons x
  | case5 x xs y ys hlt hne ih => exact ih.cons y

theorem common_eq_nil (apart : ∀ x ∈ xs, x ∉ ys) : common xs ys = [] := by
  rw [List.eq_nil_iff_forall_not_mem]
  intro x hx
  exact apart x ((common_sublist_left _ _).subset hx) ((common_sublist_right _ _).subset hx)

variable [IsStrictTotalOrder α (· < ·)]

omit [DecidableLT α] [DecidableEq α] in
theorem not_mem_of_lt_head {x y : α} (h : NonDescending (y :: ys)) (hxy : x < y) : x ∉ y :: ys := by
  intro hx
  rcases List.mem_cons.mp hx with rfl | hx
  · exact irrefl_of (· < ·) x hxy
  · exact (List.pairwise_cons.mp h).1 x hx hxy

/-- The merge keeps every value as often as both lists hold it. -/
theorem count_common (hxs : NonDescending xs) (hys : NonDescending ys) (a : α) :
    (common xs ys).count a = min (xs.count a) (ys.count a) := by
  fun_induction common xs ys with
  | case1 => simp
  | case2 => simp
  | case3 x xs y ys hlt ih =>
    rw [ih (List.pairwise_cons.mp hxs).2 hys]
    -- a head that is passed is not on the other side, so it counts for nothing there
    by_cases same : x = a
    · have absent := List.count_eq_zero.mpr (not_mem_of_lt_head hys hlt)
      rw [← same, absent, Nat.min_zero, Nat.min_zero]
    · rw [List.count_cons_of_ne same]
  | case4 xs x ys hlt ih =>
    have rest := ih (List.pairwise_cons.mp hxs).2 (List.pairwise_cons.mp hys).2
    by_cases same : x = a
    · subst same
      rw [List.count_cons_self, List.count_cons_self, List.count_cons_self, rest,
        Nat.add_min_add_right]
    · rw [List.count_cons_of_ne same, List.count_cons_of_ne same, List.count_cons_of_ne same, rest]
  | case5 x xs y ys hlt hne ih =>
    have before : y < x := by
      by_contra hge
      exact hne (Std.Trichotomous.trichotomous _ _ hlt hge)
    rw [ih hxs (List.pairwise_cons.mp hys).2]
    by_cases same : y = a
    · have absent := List.count_eq_zero.mpr (not_mem_of_lt_head hxs before)
      rw [← same, absent, Nat.zero_min, Nat.zero_min]
    · rw [List.count_cons_of_ne same]

end Motif.Sorted

namespace Motif.Intersection

open Sorted

variable {α : Type} [LT α] [DecidableLT α] [DecidableEq α] {u v : Array α} {c : Cursor}

namespace Cursor

/-- What the plain merge finds from a cursor on. -/
def rest (u v : Array α) (c : Cursor) : List α :=
  common (u.toList.drop c.i) (v.toList.drop c.j)

/-- A head lies above the last element of the other side. -/
def Ended (u v : Array α) (c : Cursor) : Prop :=
  ∃ (hi : c.i < u.size) (hj : c.j < v.size) (hu : u.size - 1 < u.size) (hv : v.size - 1 < v.size),
    v[v.size - 1] < u[c.i] ∨ u[u.size - 1] < v[c.j]

theorem rest_inside (hi : c.i < u.size) (hj : c.j < v.size) :
    c.rest u v =
      if u[c.i] < v[c.j] then rest u v { c with i := c.i + 1 }
      else if u[c.i] = v[c.j] then u[c.i] :: rest u v ⟨c.i + 1, c.j + 1, c.total + 1⟩
      else rest u v { c with j := c.j + 1 } := by
  have headU := List.drop_eq_getElem_cons (l := u.toList) (i := c.i) (by simpa using hi)
  have headV := List.drop_eq_getElem_cons (l := v.toList) (i := c.j) (by simpa using hj)
  rw [Array.getElem_toList] at headU headV
  simp only [rest]
  conv_lhs => rw [headU, headV, common, ← headU, ← headV]

theorem rest_outside (outside : ¬ (c.i < u.size ∧ c.j < v.size)) : c.rest u v = [] := by
  refine common_eq_nil fun x hu hv => outside ⟨?_, ?_⟩
  · have := List.length_pos_of_mem hu
    rw [List.length_drop, Array.length_toList] at this
    omega
  · have := List.length_pos_of_mem hv
    rw [List.length_drop, Array.length_toList] at this
    omega

end Cursor

/-- A turn goes round again as the plain merge would, is left when that has nothing more to find,
and ends the merge only from a cursor whose head lies above the other side. -/
def Turn.Follows (u v : Array α) (c : Cursor) : Turn → Prop
  | .again d => d.total + (d.rest u v).length = c.total + (c.rest u v).length
  | .leave => c.rest u v = []
  | .finish => c.Ended u v

theorem scalarTurn_follows [IsStrictTotalOrder α (· < ·)] (u v : Array α) (c : Cursor) :
    ∃ t, scalarTurn u v c = .ok t ∧ t.Follows u v c := by
  by_cases inside : c.i < u.size ∧ c.j < v.size
  · obtain ⟨hi, hj⟩ := inside
    rw [scalarTurn_inside hi hj]
    split
    case isTrue ended => exact ⟨.finish, rfl, hi, hj, by omega, by omega, ended⟩
    case isFalse =>
      split
      case isTrue same =>
        have level : ¬ u[c.i] < v[c.j] := same ▸ irrefl_of (· < ·) _
        refine ⟨_, rfl, ?_⟩
        rw [Turn.Follows, Cursor.rest_inside hi hj, if_neg level, if_pos same, List.length_cons,
          Nat.add_right_comm, Nat.add_assoc]
      case isFalse differ =>
        split
        case isTrue uFirst =>
          refine ⟨_, rfl, ?_⟩
          rw [Turn.Follows, Cursor.rest_inside hi hj, if_pos uFirst]
        case isFalse vFirst =>
          refine ⟨_, rfl, ?_⟩
          rw [Turn.Follows, Cursor.rest_inside hi hj, if_neg vFirst, if_neg differ]
  · exact ⟨.leave, scalarTurn_outside inside, Cursor.rest_outside inside⟩

theorem follows_of_turn [IsStrictTotalOrder α (· < ·)] {t : Turn}
    (turned : scalarTurn u v c = .ok t) : t.Follows u v c := by
  obtain ⟨t', turned', follows⟩ := scalarTurn_follows u v c
  rw [turned, Except.ok.injEq] at turned'
  exact turned' ▸ follows

/-- Until it ends, the run finds what the plain merge does. -/
theorem run_scalar [IsStrictTotalOrder α (· < ·)] (u v : Array α) (c : Cursor) :
    ∃ d goesOn, (Loop.scalar u v).run c = .ok (d, goesOn) ∧
      d.total + (d.rest u v).length = c.total + (c.rest u v).length ∧
      (d.rest u v = [] ∨ d.Ended u v) := by
  fun_induction Loop.run (Loop.scalar u v) c with
  | case1 c e failed =>
    obtain ⟨t, turned, _⟩ := scalarTurn_follows u v c
    cases failed.symm.trans turned
  | case2 c left => exact ⟨c, true, rfl, rfl, .inl (follows_of_turn left)⟩
  | case3 c finished => exact ⟨c, false, rfl, rfl, .inr (follows_of_turn finished)⟩
  | case4 c d again ih =>
    -- what the turn counted is missing from what is left to find
    have balanced : d.total + (d.rest u v).length = c.total + (c.rest u v).length :=
      follows_of_turn again
    obtain ⟨e, goesOn, ran, total, stopped⟩ := ih
    exact ⟨e, goesOn, ran, total.trans balanced, stopped⟩

theorem exists_scalarSize [IsStrictTotalOrder α (· < ·)] (u v : Array α) :
    ∃ d : Cursor, scalarSize u v = .ok d.total ∧
      d.total + (d.rest u v).length = (common u.toList v.toList).length ∧
      (d.rest u v = [] ∨ d.Ended u v) := by
  obtain ⟨d, goesOn, ran, total, stopped⟩ := run_scalar u v .start
  refine ⟨d, ?_, ?_, stopped⟩
  · rw [scalarSize, ran]
    rfl
  · rw [total, Cursor.rest, Cursor.start, List.drop_zero, List.drop_zero, Nat.zero_add]

variable [IsStrictTotalOrder α (· < ·)]

omit [DecidableLT α] [DecidableEq α] in
theorem apart_of_last_lt (hu : NonDescending u.toList) (hv : NonDescending v.toList) {k l : Nat}
    {hk : k < u.size} {hl : v.size - 1 < v.size} (ended : v[v.size - 1] < u[k]) :
    ∀ x ∈ u.toList.drop k, x ∉ v.toList.drop l := by
  intro x hxu hxv
  have head : u.toList[k]? = some u[k] := by simp
  exact not_lt_last hv x hxv (lt_of_lt_of_mem_drop hu head ended x hxu)

/-- On lists in order nothing is shared from where the comparisons end. -/
theorem Cursor.Ended.rest_eq_nil (hu : NonDescending u.toList) (hv : NonDescending v.toList)
    (ended : c.Ended u v) : c.rest u v = [] := by
  obtain ⟨hi, hj, hlu, hlv, vEnds | uEnds⟩ := ended
  · exact common_eq_nil (apart_of_last_lt hu hv vEnds)
  · exact common_eq_nil fun x hxu hxv => apart_of_last_lt hv hu uEnds x hxv hxu

theorem scalarTurn_swap (u v : Array α) (c : Cursor) :
    scalarTurn v u c.swap = (scalarTurn u v c).map Turn.swap := by
  by_cases inside : c.i < u.size ∧ c.j < v.size
  · obtain ⟨hi, hj⟩ := inside
    have turned : scalarTurn v u ⟨c.j, c.i, c.total⟩ = _ := scalarTurn_inside hj hi
    rw [scalarTurn_inside hi hj, Cursor.swap, turned]
    simp only [or_comm (a := u[u.size - 1] < v[c.j])]
    split
    case isTrue => rfl
    case isFalse =>
      -- both sides test for equality first, so which test comes next depends on the heads alone
      rcases trichotomous_of (· < ·) u[c.i] v[c.j] with uFirst | same | vFirst
      · have notV : ¬ v[c.j] < u[c.i] := asymm_of (· < ·) uFirst
        have differ : u[c.i] ≠ v[c.j] := fun same => notV (same ▸ uFirst)
        rw [if_neg differ.symm, if_neg notV, if_neg differ, if_pos uFirst]
        rfl
      · rw [if_pos same.symm, if_pos same]
        rfl
      · have notU : ¬ u[c.i] < v[c.j] := asymm_of (· < ·) vFirst
        have differ : u[c.i] ≠ v[c.j] := fun same => notU (same ▸ vFirst)
        rw [if_neg differ.symm, if_pos vFirst, if_neg differ, if_neg notU]
        rfl
  · rw [scalarTurn_outside inside, scalarTurn_outside fun swapped => inside swapped.symm]
    rfl

namespace Loop

omit [LT α] [DecidableLT α] [DecidableEq α] [IsStrictTotalOrder α (· < ·)]

/-- A loop whose turns are another's with the sides exchanged runs like the other. -/
theorem run_swap (loop : Loop u v) (mirrored : Loop v u)
    (turns : ∀ c, mirrored.turn c.swap = (loop.turn c).map Turn.swap) (c : Cursor) :
    mirrored.run c.swap = (loop.run c).map fun (d, goesOn) => (d.swap, goesOn) := by
  fun_induction Loop.run loop c with
  | case1 c e failed =>
    rw [run_eq, turns, failed]
    rfl
  | case2 c left =>
    rw [run_eq, turns, left]
    rfl
  | case3 c finished =>
    rw [run_eq, turns, finished]
    rfl
  | case4 c d again ih =>
    rw [run_eq, turns, again]
    exact ih

end Loop

theorem scalarSize_comm (u v : Array α) : scalarSize v u = scalarSize u v := by
  have swapped : (Loop.scalar v u).run .start = _ :=
    Loop.run_swap (Loop.scalar u v) (Loop.scalar v u) (scalarTurn_swap u v) .start
  rw [scalarSize, scalarSize, swapped]
  cases (Loop.scalar u v).run .start <;> rfl

/-- On lists in order the merges tell the intersection with its multiplicities: what the plain one
finds is in order, holds every value as often as both lists do, and is what the comparisons count.
On any lists whatsoever the comparisons count alike from either side, and never more than the plain
merge finds. -/
theorem scalarSize_common (u v : Array α) :
    (NonDescending u.toList → NonDescending v.toList →
      NonDescending (common u.toList v.toList) ∧
      (∀ x, (common u.toList v.toList).count x = min (u.toList.count x) (v.toList.count x)) ∧
      scalarSize u v = .ok (common u.toList v.toList).length) ∧
    ∃ n, scalarSize u v = .ok n ∧ scalarSize v u = .ok n ∧
      n ≤ (common u.toList v.toList).length := by
  obtain ⟨d, counted, total, stopped⟩ := exists_scalarSize u v
  constructor
  · intro hu hv
    have nothing : d.rest u v = [] := stopped.elim id fun ended => ended.rest_eq_nil hu hv
    rw [nothing, List.length_nil, Nat.add_zero] at total
    exact ⟨hu.sublist (common_sublist_left _ _), count_common hu hv, total ▸ counted⟩
  · exact ⟨d.total, counted, (scalarSize_comm u v).trans counted, total ▸ Nat.le_add_right _ _⟩

theorem scalarSize_common_repeated :
    NonDescending #[1, 1, 2, 5].toList ∧ NonDescending #[1, 1, 1, 2, 3].toList ∧
      scalarSize #[1, 1, 2, 5] #[1, 1, 1, 2, 3] = .ok 3 := by
  have us : NonDescending #[1, 1, 2, 5].toList := by decide
  have vs : NonDescending #[1, 1, 1, 2, 3].toList := by decide
  have counted := ((scalarSize_common _ _).1 us vs).2.2
  refine ⟨us, vs, ?_⟩
  rw [counted]
  simp [common]

/-- Out of order, the comparisons may miss what the plain merge finds. -/
example : scalarSize #[1, 5, 2] #[3, 5, 2] = .ok 0 ∧ common [1, 5, 2] [3, 5, 2] = [5, 2] := by
  cbv

end Motif.Intersection
