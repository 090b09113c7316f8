import Mathlib
import Motif.Intersection.Merge
import Motif.Proofs.Intersection.Shared

/-!
# The merge counts what two arrays share

One statement holds at every turn of every loop: what has been counted, and the equal pairs of
what both sides have left, make up all equal pairs. A turn keeps it because what it passes on one
side is equal to nothing on the other beyond what it counted.
-/

set_option autoImplicit false

namespace Motif.Intersection

open Sorted

variable {α : Type}

theorem toList_block (xs : Array α) (k n : Nat) :
    (xs.extract k (k + n)).toList = (xs.toList.drop k).take n := by
  rw [Array.toList_extract, List.extract_eq_take_drop, Nat.add_sub_cancel_left]

section Positions

variable [LT α] [IsStrictTotalOrder α (· < ·)] {xs : List α} {m : Nat} {a b x : α}

omit [IsStrictTotalOrder α (· < ·)] in
theorem lt_of_mem_drop (h : Ascending xs) (ha : xs[m]? = some a) {k : Nat} (hmk : m < k)
    (hx : x ∈ xs.drop k) : a < x := by
  obtain ⟨i, hi, rfl⟩ := List.mem_iff_getElem.mp hx
  obtain ⟨hm, rfl⟩ := List.getElem?_eq_some_iff.mp ha
  rw [List.length_drop] at hi
  rw [List.getElem_drop]
  exact List.pairwise_iff_getElem.mp h m (k + i) hm (by omega) (by omega)

theorem not_lt_of_mem_drop (h : NonDescending xs) (ha : xs[m]? = some a) (hx : x ∈ xs.drop m) :
    ¬ x < a := by
  obtain ⟨hm, rfl⟩ := List.getElem?_eq_some_iff.mp ha
  rw [List.drop_eq_getElem_cons hm] at hx
  have tail := List.drop_eq_getElem_cons hm ▸ h.sublist (List.drop_sublist m xs)
  rcases List.mem_cons.mp hx with rfl | hx
  · exact irrefl_of (· < ·) _
  · exact (List.pairwise_cons.mp tail).1 x hx

/-- What is below an element is below all that stands from there on. -/
theorem lt_of_lt_of_mem_drop (h : NonDescending xs) (hb : xs[m]? = some b) (hab : a < b) :
    ∀ x ∈ xs.drop m, a < x := by
  intro x hx
  rcases trichotomous_of (· < ·) b x with hbx | rfl | hxb
  · exact trans_of (· < ·) hab hbx
  · exact hab
  · exact absurd hxb (not_lt_of_mem_drop h hb hx)

theorem not_lt_of_mem_take (h : NonDescending xs) (ha : xs[m]? = some a)
    (hx : x ∈ xs.take (m + 1)) : ¬ a < x := by
  obtain ⟨hm, rfl⟩ := List.getElem?_eq_some_iff.mp ha
  obtain ⟨i, hi, rfl⟩ := List.mem_iff_getElem.mp hx
  rw [List.length_take] at hi
  rw [List.getElem_take]
  rcases Nat.lt_or_eq_of_le (show i ≤ m by omega) with hlt | rfl
  · exact List.pairwise_iff_getElem.mp h i m (by omega) hm hlt
  · exact irrefl_of (· < ·) _

/-- A block ends with its greatest element. -/
theorem not_lt_of_mem_block (h : Ascending xs) {i n : Nat} (hn : 0 < n)
    (ha : xs[i + n - 1]? = some a) : ∀ x ∈ (xs.drop i).take n, ¬ a < x := by
  intro x hx
  refine not_lt_of_mem_take h.nonDescending ha ?_
  rw [List.take_drop] at hx
  have : i + n - 1 + 1 = i + n := by omega
  rw [this]
  exact List.mem_of_mem_drop hx

omit [IsStrictTotalOrder α (· < ·)] in
theorem ascending_block (h : Ascending xs) (k n : Nat) : Ascending ((xs.drop k).take n) :=
  h.sublist ((List.take_sublist _ _).trans (List.drop_sublist _ _))

/-- No element is above the last one. -/
theorem not_lt_last {xs : Array α} (h : NonDescending xs.toList) {hn : xs.size - 1 < xs.size}
    {k : Nat} : ∀ x ∈ xs.toList.drop k, ¬ xs[xs.size - 1] < x := by
  intro x hx
  refine not_lt_of_mem_take (m := xs.size - 1) h (by simp) ?_
  rw [List.take_of_length_le (by rw [Array.length_toList]; omega)]
  exact List.mem_of_mem_drop hx

end Positions

section Counting

variable [DecidableEq α]

/-- What has been counted, and what both sides still hold, make up all equal pairs. -/
def Cursor.Counts (u v : Array α) (c : Cursor) : Prop :=
  c.total + equalPairs (u.toList.drop c.i) (v.toList.drop c.j) = equalPairs u.toList v.toList

/-- A turn goes round again with a count that is still right, and ends the merge only when
nothing more is shared. -/
def Turn.Sound (u v : Array α) (c : Cursor) : Turn → Prop
  | .again d => d.Counts u v
  | .leave => True
  | .finish => equalPairs (u.toList.drop c.i) (v.toList.drop c.j) = 0

variable {u v : Array α} {c : Cursor}

theorem Cursor.counts_start : Cursor.start.Counts u v := by
  simp [Cursor.Counts, Cursor.start]

theorem Cursor.Counts.swap (hc : c.Counts u v) : c.swap.Counts v u := by
  unfold Cursor.Counts Cursor.swap
  rw [equalPairs_comm, hc, equalPairs_comm]

theorem Turn.Sound.swap {t : Turn} (ht : t.Sound v u c.swap) : t.swap.Sound u v c := by
  cases t with
  | again d => exact Cursor.Counts.swap ht
  | leave => trivial
  | finish =>
    change equalPairs (u.toList.drop c.i) (v.toList.drop c.j) = 0
    rw [equalPairs_comm]
    exact ht

theorem equalPairs_drop_left (xs ys : List α) (i n : Nat) :
    equalPairs (xs.drop i) ys =
      equalPairs ((xs.drop i).take n) ys + equalPairs (xs.drop (i + n)) ys := by
  rw [← equalPairs_append_left, ← List.drop_drop, List.take_append_drop]

theorem equalPairs_drop_right (xs ys : List α) (j m : Nat) :
    equalPairs xs (ys.drop j) =
      equalPairs xs ((ys.drop j).take m) + equalPairs xs (ys.drop (j + m)) := by
  rw [← equalPairs_append_right, ← List.drop_drop, List.take_append_drop]

/-- A block may be passed once its pairs with all that the other side still holds are counted. -/
theorem Cursor.Counts.passLeft (hc : c.Counts u v) (n : Nat) {k : Nat}
    (hk : equalPairs ((u.toList.drop c.i).take n) (v.toList.drop c.j) = k) :
    Cursor.Counts u v ⟨c.i + n, c.j, c.total + k⟩ := by
  unfold Cursor.Counts at hc ⊢
  rw [equalPairs_drop_left _ _ _ n, hk] at hc
  rw [← hc]
  exact Nat.add_assoc _ _ _

theorem Cursor.Counts.passRight (hc : c.Counts u v) (m : Nat) {k : Nat}
    (hk : equalPairs (u.toList.drop c.i) ((v.toList.drop c.j).take m) = k) :
    Cursor.Counts u v ⟨c.i, c.j + m, c.total + k⟩ := by
  rw [equalPairs_comm] at hk
  exact (hc.swap.passLeft m hk).swap

/-- Both sides may be passed at once if neither block is equal to anything behind the other. -/
theorem Cursor.Counts.passBoth (hc : c.Counts u v) {n m : Nat}
    (hu : equalPairs ((u.toList.drop c.i).take n) (v.toList.drop (c.j + m)) = 0)
    (hv : equalPairs (u.toList.drop (c.i + n)) ((v.toList.drop c.j).take m) = 0) :
    Cursor.Counts u v ⟨c.i + n, c.j + m, c.total +
      equalPairs ((u.toList.drop c.i).take n) ((v.toList.drop c.j).take m)⟩ := by
  have left := hc.passLeft n (equalPairs_drop_right _ _ _ m)
  rw [hu, Nat.add_zero] at left
  exact left.passRight m hv

end Counting

variable [LT α] [DecidableEq α]

/-- A kernel that counts what two ascending blocks of `n` elements share. -/
def Counting (n : Nat) (kernel : Kernel α) : Prop :=
  ∀ a b : Array α, a.size = n → b.size = n → Ascending a.toList → Ascending b.toList →
    kernel a b = .ok (shared a b)

variable [DecidableLT α] [IsStrictTotalOrder α (· < ·)] {u v : Array α} {c : Cursor}

omit [DecidableLT α] in
/-- On the blocks of two ascending arrays a kernel counts the equal pairs. -/
theorem Counting.blocks {n : Nat} {kernel : Kernel α} (hk : Counting n kernel)
    (hu : Ascending u.toList) (hv : Ascending v.toList) {i j : Nat}
    (hi : i + n ≤ u.size) (hj : j + n ≤ v.size) :
    kernel (u.extract i (i + n)) (v.extract j (j + n)) =
      .ok (equalPairs ((u.toList.drop i).take n) ((v.toList.drop j).take n)) := by
  have hu' : Ascending (u.extract i (i + n)).toList := toList_block u i n ▸ ascending_block hu i n
  have hv' : Ascending (v.extract j (j + n)).toList := toList_block v j n ▸ ascending_block hv j n
  rw [hk _ _ (by rw [Array.size_extract]; omega) (by rw [Array.size_extract]; omega) hu' hv',
    shared, ← equalPairs_eq_card hu'.nodup hv'.nodup, toList_block, toList_block]

section Pass

omit [DecidableLT α]

variable (hu : Ascending u.toList) (hv : Ascending v.toList) (hc : c.Counts u v) {n m : Nat}
  {a b : α}
include hu hv

theorem equalPairs_exhausted {h : v.size - 1 < v.size} (ha : u.toList[c.i]? = some a)
    (ended : v[v.size - 1] < a) :
    equalPairs (u.toList.drop c.i) (v.toList.drop c.j) = 0 :=
  equalPairs_above _ (lt_of_lt_of_mem_drop hu.nonDescending ha ended)
    (not_lt_last hv.nonDescending)

include hc

/-- A block that ends below the head of the other side is equal to nothing there. -/
theorem Cursor.Counts.skipLeft (hn : 0 < n) (ha : u.toList[c.i + n - 1]? = some a)
    (hb : v.toList[c.j]? = some b) (hab : a < b) : Cursor.Counts u v ⟨c.i + n, c.j, c.total⟩ :=
  hc.passLeft n (k := 0)
    (equalPairs_below _ (not_lt_of_mem_block hu hn ha)
      (lt_of_lt_of_mem_drop hv.nonDescending hb hab))

theorem Cursor.Counts.skipRight (hm : 0 < m) (ha : u.toList[c.i]? = some a)
    (hb : v.toList[c.j + m - 1]? = some b) (hba : b < a) :
    Cursor.Counts u v ⟨c.i, c.j + m, c.total⟩ :=
  (hc.swap.skipLeft hv hu hm hb ha hba).swap

/-- Of two blocks, the one that ends first has all its pairs in the other. -/
theorem Cursor.Counts.passFirst (hn : 0 < n) (hm : 0 < m)
    (ha : u.toList[c.i + n - 1]? = some a) (hb : v.toList[c.j + m - 1]? = some b) (hab : a < b) :
    Cursor.Counts u v ⟨c.i + n, c.j, c.total +
      equalPairs ((u.toList.drop c.i).take n) ((v.toList.drop c.j).take m)⟩ := by
  have behind := equalPairs_below _ (not_lt_of_mem_block hu hn ha) fun y hy =>
    trans_of (· < ·) hab (lt_of_mem_drop (k := c.j + m) hv hb (by omega) hy)
  refine hc.passLeft n ?_
  rw [equalPairs_drop_right _ _ _ m, behind, Nat.add_zero]

theorem Cursor.Counts.passSecond (hn : 0 < n) (hm : 0 < m)
    (ha : u.toList[c.i + n - 1]? = some a) (hb : v.toList[c.j + m - 1]? = some b) (hba : b < a) :
    Cursor.Counts u v ⟨c.i, c.j + m, c.total +
      equalPairs ((u.toList.drop c.i).take n) ((v.toList.drop c.j).take m)⟩ := by
  rw [equalPairs_comm]
  exact (hc.swap.passFirst hv hu hm hn hb ha hba).swap

/-- Two blocks that end alike have all their pairs in each other. -/
theorem Cursor.Counts.passAlike (hn : 0 < n) (hm : 0 < m)
    (ha : u.toList[c.i + n - 1]? = some a) (hb : v.toList[c.j + m - 1]? = some a) :
    Cursor.Counts u v ⟨c.i + n, c.j + m, c.total +
      equalPairs ((u.toList.drop c.i).take n) ((v.toList.drop c.j).take m)⟩ := by
  refine hc.passBoth ?_ ?_
  · exact equalPairs_below _ (not_lt_of_mem_block hu hn ha)
      fun y hy => lt_of_mem_drop hv hb (by omega) hy
  · exact equalPairs_above _ (fun x hx => lt_of_mem_drop hu ha (by omega) hx)
      (not_lt_of_mem_block hv hm hb)

end Pass

omit [DecidableEq α] [IsStrictTotalOrder α (· < ·)] in
/-- A turn with a full block on either side, without the reads. -/
theorem blockTurn_inside {lanes : Nat} (hl : 0 < lanes) (kernel : Kernel α)
    (hi : c.i + lanes ≤ u.size) (hj : c.j + lanes ≤ v.size) :
    blockTurn lanes kernel u v c =
      if v[c.j + lanes - 1] < u[c.i] then
        if v[v.size - 1] < u[c.i] then .ok .finish
        else .ok (.again { c with j := c.j + lanes })
      else if u[c.i + lanes - 1] < v[c.j] then
        if u[u.size - 1] < v[c.j] then .ok .finish
        else .ok (.again { c with i := c.i + lanes })
      else (do
        let total := c.total +
          (← kernel (u.extract c.i (c.i + lanes)) (v.extract c.j (c.j + lanes)))
        if u[c.i + lanes - 1] < v[c.j + lanes - 1] then .ok (.again ⟨c.i + lanes, c.j, total⟩)
        else if v[c.j + lanes - 1] < u[c.i + lanes - 1] then
          .ok (.again ⟨c.i, c.j + lanes, total⟩)
        else .ok (.again ⟨c.i + lanes, c.j + lanes, total⟩)) := by
  rw [blockTurn, if_pos ⟨hi, hj⟩, read_of_lt (show c.i < u.size by omega), ok_bind,
    read_of_lt (show c.j + lanes - 1 < v.size by omega), ok_bind,
    read_of_lt (show v.size - 1 < v.size by omega), ok_bind,
    read_of_lt (show c.j < v.size by omega), ok_bind,
    read_of_lt (show c.i + lanes - 1 < u.size by omega), ok_bind,
    read_of_lt (show u.size - 1 < u.size by omega), ok_bind,
    slice_of_le (by omega) hi, ok_bind, slice_of_le (by omega) hj, ok_bind]

theorem blockTurn_sound {lanes : Nat} (hl : 0 < lanes) {kernel : Kernel α}
    (hk : Counting lanes kernel) (hu : Ascending u.toList) (hv : Ascending v.toList)
    (hc : c.Counts u v) : ∃ t, blockTurn lanes kernel u v c = .ok t ∧ t.Sound u v c := by
  by_cases fits : c.i + lanes ≤ u.size ∧ c.j + lanes ≤ v.size
  case neg => exact ⟨.leave, if_neg fits, trivial⟩
  case pos =>
    obtain ⟨hi, hj⟩ := fits
    have minU : u.toList[c.i]? = some u[c.i] := by simp
    have maxU : u.toList[c.i + lanes - 1]? = some u[c.i + lanes - 1] := by simp
    have minV : v.toList[c.j]? = some v[c.j] := by simp
    have maxV : v.toList[c.j + lanes - 1]? = some v[c.j + lanes - 1] := by simp
    rw [blockTurn_inside hl kernel hi hj]
    split
    case isTrue vFirst =>
      split
      case isTrue vEnds => exact ⟨.finish, rfl, equalPairs_exhausted hu hv minU vEnds⟩
      case isFalse => exact ⟨_, rfl, hc.skipRight hu hv hl minU maxV vFirst⟩
    case isFalse =>
      split
      case isTrue uFirst =>
        split
        case isTrue uEnds =>
          refine ⟨.finish, rfl, ?_⟩
          exact (equalPairs_comm _ _).trans (equalPairs_exhausted (c := c.swap) hv hu minV uEnds)
        case isFalse => exact ⟨_, rfl, hc.skipLeft hu hv hl maxU minV uFirst⟩
      case isFalse =>
        rw [hk.blocks hu hv hi hj, ok_bind]
        split
        case isTrue uEndsFirst =>
          exact ⟨_, rfl, hc.passFirst hu hv hl hl maxU maxV uEndsFirst⟩
        case isFalse uNotFirst =>
          split
          case isTrue vEndsFirst =>
            exact ⟨_, rfl, hc.passSecond hu hv hl hl maxU maxV vEndsFirst⟩
          case isFalse vNotFirst =>
            have same : u[c.i + lanes - 1] = v[c.j + lanes - 1] :=
              Std.Trichotomous.trichotomous _ _ uNotFirst vNotFirst
            exact ⟨_, rfl, hc.passAlike hu hv hl hl maxU (same ▸ maxV)⟩

omit [LT α] [DecidableLT α] [IsStrictTotalOrder α (· < ·)] in
theorem credit_eq {block : Array α} (distinct : block.toList.Nodup) (x : α) (total : Nat) :
    credit block x total = total + block.toList.count x := by
  unfold credit
  split
  case isTrue hx => rw [List.count_eq_one_of_mem distinct (Array.mem_toList_iff.mpr hx)]
  case isFalse hx =>
    rw [List.count_eq_zero.mpr (fun h => hx (Array.mem_toList_iff.mp h)), Nat.add_zero]

/-- A walk passes what is not above the last element of the block, and counts its pairs. -/
theorem walk_spec {block : Array α} (distinct : block.toList.Nodup) (last : α)
    (hv : Ascending v.toList) (j total : Nat) :
    ∃ m, walk block last v j total =
        (j + m, total + equalPairs block.toList ((v.toList.drop j).take m)) ∧
      (∀ y ∈ (v.toList.drop j).take m, ¬ last < y) ∧ ∀ y ∈ v.toList.drop (j + m), last < y := by
  fun_induction walk block last v j total with
  | case1 j total h above =>
    refine ⟨0, by simp, by simp, ?_⟩
    exact lt_of_lt_of_mem_drop (m := j) hv.nonDescending (by simp [h]) above
  | case2 j total h notAbove ih =>
    obtain ⟨m, hm, passed, ahead⟩ := ih
    have cons : v.toList.drop j = v[j] :: v.toList.drop (j + 1) :=
      List.drop_eq_getElem_cons (by simpa using h)
    refine ⟨m + 1, ?_, ?_, ?_⟩
    · rw [hm, credit_eq distinct, cons, List.take_succ_cons, ← List.singleton_append,
        equalPairs_append_right, equalPairs_singleton_right, Nat.add_assoc j, Nat.add_comm 1,
        Nat.add_assoc total]
    · intro y hy
      rw [cons, List.take_succ_cons] at hy
      rcases List.mem_cons.mp hy with rfl | hy
      · exact notAbove
      · exact passed y hy
    · rw [Nat.add_comm m, ← Nat.add_assoc]
      exact ahead
  | case3 j total h =>
    refine ⟨0, by simp, by simp, ?_⟩
    rw [List.drop_eq_nil_of_le (by simpa using h)]
    simp

omit [IsStrictTotalOrder α (· < ·)] in
/-- A turn along a full block, without the reads. -/
theorem alongTurn_inside {lanes : Nat} (hl : 0 < lanes) (hi : c.i + lanes ≤ u.size)
    (hj : c.j < v.size) :
    alongTurn lanes u v c =
      let walked := walk (u.extract c.i (c.i + lanes)) u[c.i + lanes - 1] v c.j c.total
      .ok (.again ⟨c.i + lanes, walked.1, walked.2⟩) := by
  have last : read (u.extract c.i (c.i + lanes)) (lanes - 1) = .ok u[c.i + lanes - 1] := by
    rw [read_of_lt (by rw [Array.size_extract]; omega), Array.getElem_extract]
    congr 2
    omega
  rw [alongTurn, if_pos ⟨hi, hj⟩, slice_of_le (by omega) hi, ok_bind, last, ok_bind]

theorem alongTurn_sound {lanes : Nat} (hl : 0 < lanes) (hu : Ascending u.toList)
    (hv : Ascending v.toList) (hc : c.Counts u v) :
    ∃ t, alongTurn lanes u v c = .ok t ∧ t.Sound u v c := by
  by_cases fits : c.i + lanes ≤ u.size ∧ c.j < v.size
  case neg => exact ⟨.leave, if_neg fits, trivial⟩
  case pos =>
    have maxU : u.toList[c.i + lanes - 1]? = some u[c.i + lanes - 1] := by simp
    have distinct : (u.extract c.i (c.i + lanes)).toList.Nodup := by
      rw [toList_block]
      exact (ascending_block hu c.i lanes).nodup
    obtain ⟨m, walked, passed, ahead⟩ :=
      walk_spec distinct u[c.i + lanes - 1] hv c.j c.total
    rw [alongTurn_inside hl fits.1 fits.2, walked, toList_block]
    -- the block ends below what the walk leaves, and what it passed is below the rest of `u`
    refine ⟨_, rfl, hc.passBoth ?_ ?_⟩
    · exact equalPairs_below _ (not_lt_of_mem_block hu hl maxU) ahead
    · exact equalPairs_above _
        (fun x hx => lt_of_mem_drop (k := c.i + lanes) hu maxU (by omega) hx) passed

omit [IsStrictTotalOrder α (· < ·)] in
/-- A turn inside both arrays, without the reads. -/
theorem scalarTurn_inside (hi : c.i < u.size) (hj : c.j < v.size) :
    scalarTurn u v c =
      if v[v.size - 1] < u[c.i] ∨ u[u.size - 1] < v[c.j] then .ok .finish
      else if u[c.i] = v[c.j] then .ok (.again ⟨c.i + 1, c.j + 1, c.total + 1⟩)
      else if u[c.i] < v[c.j] then .ok (.again { c with i := c.i + 1 })
      else .ok (.again { c with j := c.j + 1 }) := by
  rw [scalarTurn, if_pos ⟨hi, hj⟩, read_of_lt hi, ok_bind, read_of_lt hj, ok_bind,
    read_of_lt (show u.size - 1 < u.size by omega), ok_bind,
    read_of_lt (show v.size - 1 < v.size by omega), ok_bind]

omit [IsStrictTotalOrder α (· < ·)] in
theorem scalarTurn_outside (outside : ¬ (c.i < u.size ∧ c.j < v.size)) :
    scalarTurn u v c = .ok .leave := by
  rw [scalarTurn, if_neg outside]

theorem scalarTurn_sound (hu : Ascending u.toList) (hv : Ascending v.toList)
    (hc : c.Counts u v) : ∃ t, scalarTurn u v c = .ok t ∧ t.Sound u v c := by
  by_cases inside : c.i < u.size ∧ c.j < v.size
  case neg => exact ⟨.leave, scalarTurn_outside inside, trivial⟩
  case pos =>
    obtain ⟨hi, hj⟩ := inside
    have headU : u.toList[c.i]? = some u[c.i] := by simp
    have headV : v.toList[c.j]? = some v[c.j] := by simp
    rw [scalarTurn_inside hi hj]
    split
    case isTrue ended =>
      refine ⟨.finish, rfl, ?_⟩
      rcases ended with vEnds | uEnds
      · exact equalPairs_exhausted hu hv headU vEnds
      · exact (equalPairs_comm _ _).trans (equalPairs_exhausted (c := c.swap) hv hu headV uEnds)
    case isFalse =>
      split
      case isTrue same =>
        have counted := hc.passAlike (n := 1) (m := 1) hu hv Nat.one_pos Nat.one_pos headU
          (same ▸ headV)
        have blockU : (u.toList.drop c.i).take 1 = [u[c.i]] := by
          rw [List.drop_eq_getElem_cons (by simpa using hi)]
          rfl
        have blockV : (v.toList.drop c.j).take 1 = [v[c.j]] := by
          rw [List.drop_eq_getElem_cons (by simpa using hj)]
          rfl
        rw [blockU, blockV, same, equalPairs_singleton_right, List.count_singleton_self]
          at counted
        exact ⟨_, rfl, counted⟩
      case isFalse differ =>
        split
        case isTrue uFirst =>
          exact ⟨_, rfl, hc.skipLeft (n := 1) hu hv Nat.one_pos headU headV uFirst⟩
        case isFalse uNotFirst =>
          have vFirst : v[c.j] < u[c.i] := by
            by_contra vNotFirst
            exact differ (Std.Trichotomous.trichotomous _ _ uNotFirst vNotFirst)
          exact ⟨_, rfl, hc.skipRight (m := 1) hu hv Nat.one_pos headU headV vFirst⟩

namespace Loop

omit [LT α] [DecidableEq α] [DecidableLT α] [IsStrictTotalOrder α (· < ·)] in
theorem run_eq (loop : Loop u v) (c : Cursor) :
    loop.run c = loop.turn c >>= fun
      | .again d => loop.run d
      | .leave => .ok (c, true)
      | .finish => .ok (c, false) := by
  rw [Loop.run]
  split
  case h_1 e failed => rw [failed, error_bind]
  case h_2 left => rw [left, ok_bind]
  case h_3 finished => rw [finished, ok_bind]
  case h_4 d again => rw [again, ok_bind]

omit [LT α] [DecidableLT α] [IsStrictTotalOrder α (· < ·)] in
/-- Every turn of the loop succeeds and is sound while the count is right. -/
def Keeps (loop : Loop u v) : Prop :=
  ∀ {c : Cursor}, c.Counts u v → ∃ t, loop.turn c = .ok t ∧ t.Sound u v c

omit [LT α] [DecidableLT α] [IsStrictTotalOrder α (· < ·)] in
theorem Keeps.sound {loop : Loop u v} (keeps : loop.Keeps) (hc : c.Counts u v) {t : Turn}
    (turned : loop.turn c = .ok t) : t.Sound u v c := by
  obtain ⟨t', turned', sound⟩ := keeps hc
  rw [turned, Except.ok.injEq] at turned'
  exact turned' ▸ sound

omit [LT α] [DecidableLT α] [IsStrictTotalOrder α (· < ·)] in
/-- A loop is left with a count that is still right, or ends the merge with the whole count. -/
theorem run_counts {loop : Loop u v} (keeps : loop.Keeps) (hc : c.Counts u v) :
    (∃ d, loop.run c = .ok (d, true) ∧ d.Counts u v ∧ loop.turn d = .ok .leave) ∨
      ∃ d, loop.run c = .ok (d, false) ∧ d.total = equalPairs u.toList v.toList := by
  fun_induction Loop.run loop c with
  | case1 c e failed =>
    obtain ⟨t, ht, _⟩ := keeps hc
    rw [failed] at ht
    cases ht
  | case2 c left => exact .inl ⟨c, rfl, hc, left⟩
  | case3 c finished =>
    have nothing : equalPairs (u.toList.drop c.i) (v.toList.drop c.j) = 0 :=
      keeps.sound hc finished
    refine .inr ⟨c, rfl, ?_⟩
    rw [← hc, nothing, Nat.add_zero]
  | case4 c d again ih => exact ih (keeps.sound hc again)

omit [LT α] [DecidableLT α] [IsStrictTotalOrder α (· < ·)] in
/-- A loop that is left only when one side is exhausted completes the count. -/
theorem run_completes {loop : Loop u v} (keeps : loop.Keeps)
    (exhausts : ∀ d, loop.turn d = .ok .leave → u.size ≤ d.i ∨ v.size ≤ d.j)
    (hc : c.Counts u v) :
    ∃ d goesOn, loop.run c = .ok (d, goesOn) ∧ d.total = equalPairs u.toList v.toList := by
  rcases run_counts keeps hc with ⟨d, hd, hcd, left⟩ | ⟨d, hd, whole⟩
  · refine ⟨d, true, hd, ?_⟩
    rw [← hcd]
    rcases exhausts d left with hi | hj
    · rw [List.drop_eq_nil_of_le hi, equalPairs_nil_left, Nat.add_zero]
    · rw [List.drop_eq_nil_of_le hj, equalPairs_nil_right, Nat.add_zero]
  · exact ⟨d, false, hd, whole⟩

omit [LT α] [DecidableLT α] [IsStrictTotalOrder α (· < ·)] in
theorem runAll_completes {loops : List (Loop u v)} {final : Loop u v}
    (keeps : ∀ loop ∈ loops, loop.Keeps) (keepsFinal : final.Keeps)
    (exhausts : ∀ d, final.turn d = .ok .leave → u.size ≤ d.i ∨ v.size ≤ d.j)
    (hc : c.Counts u v) :
    ∃ d, runAll (loops ++ [final]) c = .ok d ∧ d.total = equalPairs u.toList v.toList := by
  induction loops generalizing c with
  | nil =>
    obtain ⟨d, goesOn, hd, whole⟩ := run_completes keepsFinal exhausts hc
    exact ⟨d, by cases goesOn <;> simp [runAll, hd], whole⟩
  | cons loop loops ih =>
    rcases run_counts (keeps loop List.mem_cons_self) hc with ⟨d, hd, hcd, _⟩ | ⟨d, hd, whole⟩
    · obtain ⟨e, he, whole⟩ := ih (fun l hl => keeps l (List.mem_cons_of_mem _ hl)) hcd
      exact ⟨e, by simp [runAll, hd, he], whole⟩
    · exact ⟨d, by simp [runAll, hd], whole⟩

theorem blocks_keeps {lanes : Nat} (hl : 0 < lanes) {kernel : Kernel α}
    (hk : Counting lanes kernel) (hu : Ascending u.toList) (hv : Ascending v.toList) :
    (blocks u v hl kernel).Keeps :=
  fun hc => blockTurn_sound hl hk hu hv hc

theorem alongU_keeps {lanes : Nat} (hl : 0 < lanes) (hu : Ascending u.toList)
    (hv : Ascending v.toList) : (alongU u v hl).Keeps :=
  fun hc => alongTurn_sound hl hu hv hc

theorem alongV_keeps {lanes : Nat} (hl : 0 < lanes) (hu : Ascending u.toList)
    (hv : Ascending v.toList) : (alongV u v hl).Keeps := by
  intro c hc
  obtain ⟨t, ht, sound⟩ := alongTurn_sound hl hv hu hc.swap
  exact ⟨t.swap, by simp [alongV, ht, Except.map], sound.swap⟩

theorem scalar_keeps (hu : Ascending u.toList) (hv : Ascending v.toList) :
    (scalar u v).Keeps :=
  fun hc => scalarTurn_sound hu hv hc

omit [IsStrictTotalOrder α (· < ·)] in
/-- Single elements are compared until one side is exhausted. -/
theorem scalar_exhausts {d : Cursor} (left : (scalar u v).turn d = .ok .leave) :
    u.size ≤ d.i ∨ v.size ≤ d.j := by
  by_contra inside
  have fits : d.i < u.size ∧ d.j < v.size := by omega
  rw [show (scalar u v).turn d = _ from scalarTurn_inside fits.1 fits.2] at left
  split at left
  · simp at left
  · split at left
    · simp at left
    · split at left <;> simp at left

end Loop

omit [DecidableLT α] in
theorem shared_eq (hu : Ascending u.toList) (hv : Ascending v.toList) :
    shared u v = equalPairs u.toList v.toList :=
  (equalPairs_eq_card hu.nodup hv.nodup).symm

/-- Counting by single comparisons gives the number of shared values. -/
theorem scalarSize_eq (hu : Ascending u.toList) (hv : Ascending v.toList) :
    scalarSize u v = .ok (shared u v) := by
  obtain ⟨d, goesOn, hd, whole⟩ := Loop.run_completes (Loop.scalar_keeps hu hv)
    (fun _ => Loop.scalar_exhausts) Cursor.counts_start
  rw [scalarSize, hd, shared_eq hu hv, ← whole]
  rfl

end Motif.Intersection
