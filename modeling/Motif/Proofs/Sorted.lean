import Mathlib
import Motif.Sorted

/-!
# Ascending lists

Binary search finds the boundary of any test that holds of a front of the array, so on a strictly
ascending array it decides membership and cuts off the part below a value. On two strictly
ascending lists the merge keeps exactly the common values.
-/

set_option autoImplicit false

namespace Motif.Sorted

variable {α : Type}

/-- Strictly ascending, so without repetitions. -/
abbrev Ascending [LT α] (xs : List α) : Prop := xs.Pairwise (· < ·)

/-- In order, with repetitions allowed. -/
abbrev NonDescending [LT α] (xs : List α) : Prop := xs.Pairwise fun x y => ¬ y < x

theorem partitionFrom_iff {xs : Array α} {test : α → Bool}
    (front : ∀ i j (_ : i < xs.size) (_ : j < xs.size), i ≤ j →
      test xs[j] = true → test xs[i] = true)
    {lo hi : Nat} (h : hi ≤ xs.size) (hle : lo ≤ hi)
    (below : ∀ i (_ : i < xs.size), i < lo → test xs[i] = true)
    (above : ∀ i (_ : i < xs.size), hi ≤ i → ¬ test xs[i] = true)
    {i : Nat} (inside : i < xs.size) :
    i < partitionFrom xs test lo hi h ↔ test xs[i] = true := by
  fun_induction partitionFrom xs test lo hi h with
  | case1 lo hi h hlt mid hmid ht ih =>
    refine ih (by omega) ?_ above
    intro k hk hkm
    exact front k mid hk hmid (by omega) ht
  | case2 lo hi h hlt mid hmid ht ih =>
    refine ih (by omega) below ?_
    intro k hk hmk hkt
    exact ht (front mid k hmid hk hmk hkt)
  | case3 lo hi h hlt =>
    constructor
    · exact below i inside
    · intro hit
      by_contra hge
      exact above i inside (by omega) hit

theorem lt_partitionPoint_iff {xs : Array α} {test : α → Bool}
    (front : xs.toList.Pairwise fun x y => test y = true → test x = true)
    {i : Nat} (hi : i < xs.size) : i < partitionPoint xs test ↔ test xs[i] = true := by
  refine partitionFrom_iff ?_ _ (Nat.zero_le _) (by omega) (by omega) hi
  intro j k hj hk hjk hkt
  rcases Nat.eq_or_lt_of_le hjk with rfl | hlt
  · exact hkt
  · exact List.pairwise_iff_getElem.mp front j k hj hk hlt hkt

/-- What stands before the boundary is what passes the test. -/
theorem take_partitionPoint {xs : Array α} {test : α → Bool}
    (front : xs.toList.Pairwise fun x y => test y = true → test x = true) :
    xs.toList.take (partitionPoint xs test) = xs.toList.filter test := by
  conv_rhs => rw [← List.take_append_drop (partitionPoint xs test) xs.toList, List.filter_append]
  have kept : (xs.toList.take (partitionPoint xs test)).filter test =
      xs.toList.take (partitionPoint xs test) := by
    rw [List.filter_eq_self]
    intro x hx
    obtain ⟨i, hi, rfl⟩ := List.mem_iff_getElem.mp hx
    rw [List.length_take, Array.length_toList] at hi
    rw [List.getElem_take, Array.getElem_toList]
    exact (lt_partitionPoint_iff front (by omega)).mp (by omega)
  have dropped : (xs.toList.drop (partitionPoint xs test)).filter test = [] := by
    rw [List.filter_eq_nil_iff]
    intro x hx hxt
    obtain ⟨i, hi, rfl⟩ := List.mem_iff_getElem.mp hx
    rw [List.length_drop, Array.length_toList] at hi
    rw [List.getElem_drop, Array.getElem_toList] at hxt
    have := (lt_partitionPoint_iff front (by omega)).mpr hxt
    omega
  rw [kept, dropped, List.append_nil]

theorem takeWhile_eq_filter {test : α → Bool} {xs : List α}
    (front : xs.Pairwise fun x y => test y = true → test x = true) :
    xs.takeWhile test = xs.filter test := by
  induction xs with
  | nil => rfl
  | cons x xs ih =>
    obtain ⟨hx, hxs⟩ := List.pairwise_cons.mp front
    by_cases ht : test x = true
    · rw [List.takeWhile_cons_of_pos ht, List.filter_cons_of_pos ht, ih hxs]
    · rw [List.takeWhile_cons_of_neg ht, List.filter_cons_of_neg ht, eq_comm,
        List.filter_eq_nil_iff]
      exact fun y hy hyt => ht (hx y hy hyt)

section Order

variable [LT α] [IsStrictTotalOrder α (· < ·)]

omit [IsStrictTotalOrder α (· < ·)] in
theorem front_of_ascending [IsTrans α (· < ·)] [DecidableLT α] {xs : List α}
    (h : Ascending xs) (a : α) :
    xs.Pairwise fun x y => decide (y < a) = true → decide (x < a) = true :=
  h.imp fun hxy hya => decide_eq_true (trans_of (· < ·) hxy (of_decide_eq_true hya))

theorem Ascending.nodup {xs : List α} (h : Ascending xs) : xs.Nodup :=
  List.Pairwise.imp (fun {x y} (hxy : x < y) (heq : x = y) => irrefl_of (· < ·) y (heq ▸ hxy)) h

theorem Ascending.nonDescending {xs : List α} (h : Ascending xs) : NonDescending xs :=
  List.Pairwise.imp (fun {x _} hxy hyx => irrefl_of (· < ·) x (trans_of (· < ·) hxy hyx)) h

variable [DecidableLT α] [DecidableEq α]

/-- Binary search decides membership. -/
theorem contains_iff {xs : Array α} (h : Ascending xs.toList) (x : α) :
    contains xs x = true ↔ x ∈ xs.toList := by
  have front := front_of_ascending h x
  unfold contains
  rw [beq_iff_eq]
  constructor
  · intro hx
    exact Array.mem_toList_iff.mpr (Array.mem_of_getElem? hx)
  · intro hx
    obtain ⟨k, hk, hxk⟩ := Array.mem_iff_getElem.mp (Array.mem_toList_iff.mp hx)
    suffices boundary : partitionPoint xs (fun y => decide (y < x)) = k by
      rw [boundary, Array.getElem?_eq_getElem hk, hxk]
    rcases Nat.lt_trichotomy (partitionPoint xs fun y => decide (y < x)) k with hlt | heq | hgt
    · have before : xs[partitionPoint xs fun y => decide (y < x)] < x := by
        have := List.pairwise_iff_getElem.mp h _ k (Nat.lt_trans hlt hk) hk hlt
        rwa [Array.getElem_toList, Array.getElem_toList, hxk] at this
      have := (lt_partitionPoint_iff front (Nat.lt_trans hlt hk)).mpr (decide_eq_true before)
      omega
    · exact heq
    · have self := of_decide_eq_true ((lt_partitionPoint_iff front hk).mp hgt)
      rw [hxk] at self
      exact absurd self (irrefl_of (· < ·) x)

/-- The merge of two ascending lists keeps what both hold. -/
theorem common_eq_filter {xs ys : List α} (hxs : Ascending xs) (hys : Ascending ys) :
    common xs ys = xs.filter (· ∈ ys) := by
  fun_induction common xs ys with
  | case1 => rfl
  | case2 => simp
  | case3 x xs y ys hlt ih =>
    have absent : x ∉ y :: ys := by
      intro hx
      rcases List.mem_cons.mp hx with rfl | hx
      · exact irrefl_of (· < ·) _ hlt
      · exact irrefl_of (· < ·) _ (trans_of (· < ·) hlt ((List.pairwise_cons.mp hys).1 x hx))
    rw [ih (List.pairwise_cons.mp hxs).2 hys, List.filter_cons_of_neg (by simpa using absent)]
  | case4 xs x ys hlt ih =>
    rw [ih (List.pairwise_cons.mp hxs).2 (List.pairwise_cons.mp hys).2,
      List.filter_cons_of_pos (by simp)]
    congr 1
    apply List.filter_congr
    intro z hz
    have : z ≠ x := by
      rintro rfl
      exact irrefl_of (· < ·) _ ((List.pairwise_cons.mp hxs).1 z hz)
    simp [this]
  | case5 x xs y ys hlt hne ih =>
    have before : y < x := by
      by_contra hge
      exact hne (Std.Trichotomous.trichotomous _ _ hlt hge)
    rw [ih hxs (List.pairwise_cons.mp hys).2]
    apply List.filter_congr
    intro z hz
    have : z ≠ y := by
      rintro rfl
      rcases List.mem_cons.mp hz with rfl | hz
      · exact irrefl_of (· < ·) _ before
      · exact irrefl_of (· < ·) _
          (trans_of (· < ·) before ((List.pairwise_cons.mp hxs).1 z hz))
    simp [this]

end Order

end Motif.Sorted
