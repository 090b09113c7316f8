import Motif.Graph.Build
import Motif.Proofs.Sorted

/-!
# Tidying a row

One pass over a sorted row moves its distinct elements other than the loop to the front. The
invariant speaks of the elements kept so far followed by those not read yet: together they are
still sorted, because the pass only ever leaves elements out.
-/

set_option autoImplicit false

namespace Motif.Graph

open Sorted

variable {α : Type} [DecidableEq α]

theorem size_tidyFrom (loop : α) (xs : Array α) {i len : Nat} (h : len ≤ i) :
    (tidyFrom loop xs i len h).1.size = xs.size := by
  fun_induction tidyFrom loop xs i len h with
  | case1 xs i len h hi keep ih => rw [ih, Array.size_set]
  | case2 xs i len h hi skip ih => exact ih
  | case3 xs i len h hi => rfl

/-- The elements kept so far, and those not read yet. -/
def kept (xs : Array α) (len : Nat) : List α := xs.toList.take len

def unread (xs : Array α) (i : Nat) : List α := xs.toList.drop i

omit [DecidableEq α] in
theorem unread_eq_cons {xs : Array α} {i : Nat} (hi : i < xs.size) :
    unread xs i = xs[i] :: unread xs (i + 1) :=
  List.drop_eq_getElem_cons hi

omit [DecidableEq α] in
/-- Writing an element behind those kept touches nothing that is not read yet. -/
theorem kept_set {xs : Array α} {i len : Nat} (h : len ≤ i) (hi : i < xs.size) :
    kept (xs.set len xs[i] (Nat.lt_of_le_of_lt h hi)) (len + 1) = kept xs len ++ [xs[i]] ∧
      unread (xs.set len xs[i] (Nat.lt_of_le_of_lt h hi)) (i + 1) = unread xs (i + 1) := by
  constructor
  · rw [kept, kept, Array.toList_set, List.take_succ_eq_append_getElem (by simpa using by omega),
      List.take_set_of_le (Nat.le_refl _), List.getElem_set_self]
  · rw [unread, unread, Array.toList_set, List.drop_set_of_lt (by omega)]

omit [DecidableEq α] in
theorem mem_kept_of_getElem? {xs : Array α} {len : Nat} {x : α} (h : len ≠ 0)
    (hx : xs[len - 1]? = some x) : x ∈ kept xs len := by
  obtain ⟨hlt, rfl⟩ := Array.getElem?_eq_some_iff.mp hx
  rw [kept, List.mem_take_iff_getElem]
  exact ⟨len - 1, by simpa using by omega, rfl⟩

section Order

variable [LE α] [LT α] [Std.IsLinearOrder α] [Std.LawfulOrderLT α]

omit [DecidableEq α] in
/-- The last element kept is the largest, so an element that differs from it and is not below
those kept goes behind them. -/
theorem ascending_snoc {xs : Array α} {len : Nat} {x : α}
    (sorted : ∀ y ∈ kept xs len, y ≤ x) (asc : Ascending (kept xs len))
    (fresh : len = 0 ∨ xs[len - 1]? ≠ some x) (hlen : len ≤ xs.size) :
    Ascending (kept xs len ++ [x]) := by
  refine List.pairwise_append.mpr ⟨asc, List.pairwise_singleton _ _, ?_⟩
  intro y hy z hz
  rw [List.mem_singleton] at hz
  subst hz
  refine Std.lt_of_le_of_ne (sorted y hy) ?_
  rintro rfl
  obtain ⟨k, hk, hyk⟩ := List.mem_take_iff_getElem.mp hy
  have hk : k < len := by omega
  have hlast : len - 1 < xs.size := by omega
  rcases fresh with empty | differs
  · omega
  rcases Nat.eq_or_lt_of_le (show k ≤ len - 1 by omega) with rfl | before
  · exact differs (by rw [Array.getElem?_eq_getElem hlast]; exact congrArg some hyk)
  · have lastKept : xs[len - 1] ∈ kept xs len :=
      List.mem_take_iff_getElem.mpr ⟨len - 1, by simpa using by omega, rfl⟩
    have above : y < xs[len - 1] := by
      have := List.pairwise_iff_getElem.mp asc k (len - 1) (by simpa [kept] using by omega)
        (by simpa [kept] using by omega) before
      simpa only [kept, List.getElem_take, Array.getElem_toList, hyk] using this
    exact Std.not_lt_of_ge (sorted _ lastKept) above

theorem tidyFrom_spec (loop : α) {xs : Array α} {i len : Nat} (h : len ≤ i)
    (hi : i ≤ xs.size) (sorted : (kept xs len ++ unread xs i).Pairwise (· ≤ ·))
    (asc : Ascending (kept xs len)) (clean : loop ∉ kept xs len) :
    (tidyFrom loop xs i len h).2 ≤ xs.size ∧
      Ascending (kept (tidyFrom loop xs i len h).1 (tidyFrom loop xs i len h).2) ∧
      ∀ x, x ∈ kept (tidyFrom loop xs i len h).1 (tidyFrom loop xs i len h).2 ↔
        x ∈ kept xs len ∨ x ∈ unread xs i ∧ x ≠ loop := by
  fun_induction tidyFrom loop xs i len h with
  | case1 xs i len h hi' keep ih =>
    obtain ⟨hkept, hunread⟩ := kept_set h hi'
    rw [unread_eq_cons hi'] at sorted
    obtain ⟨_, _, cross⟩ := List.pairwise_append.mp sorted
    have asc' := ascending_snoc (fun y hy => cross y hy _ List.mem_cons_self) asc keep.2 (by omega)
    rw [hkept, hunread] at ih
    obtain ⟨hlen, hasc, hmem⟩ := ih (by simpa using hi') (by simpa using sorted) asc'
      (by simpa [clean] using Ne.symm keep.1)
    refine ⟨by simpa using hlen, hasc, fun x => ?_⟩
    rw [hmem, unread_eq_cons hi', List.mem_append, List.mem_singleton, List.mem_cons]
    constructor
    · rintro ((hx | rfl) | hx)
      · exact .inl hx
      · exact .inr ⟨.inl rfl, keep.1⟩
      · exact .inr ⟨.inr hx.1, hx.2⟩
    · rintro (hx | ⟨rfl | hx, hne⟩)
      · exact .inl (.inl hx)
      · exact .inl (.inr rfl)
      · exact .inr ⟨hx, hne⟩
  | case2 xs i len h hi' skip ih =>
    rw [unread_eq_cons hi'] at sorted ⊢
    have sorted' : (kept xs len ++ unread xs (i + 1)).Pairwise (· ≤ ·) :=
      sorted.sublist (List.Sublist.append_left (List.sublist_cons_self _ _) _)
    obtain ⟨hlen, hasc, hmem⟩ := ih hi' sorted' asc clean
    refine ⟨hlen, hasc, fun x => ?_⟩
    rw [hmem, List.mem_cons]
    constructor
    · rintro (hx | hx)
      · exact .inl hx
      · exact .inr ⟨.inr hx.1, hx.2⟩
    · rintro (hx | ⟨rfl | hx, hne⟩)
      · exact .inl hx
      · -- a skipped element other than the loop is the one kept last
        rw [not_and_or, not_or, not_not, not_not] at skip
        rcases skip with eq | ⟨nonempty, again⟩
        · exact absurd eq hne
        · exact .inl (mem_kept_of_getElem? nonempty again)
      · exact .inr ⟨hx, hne⟩
  | case3 xs i len h hi' =>
    have empty : unread xs i = [] := List.drop_eq_nil_of_le (by simpa using by omega)
    exact ⟨by omega, asc, fun x => by simp [empty]⟩

variable [DecidableLE α]

/-- What a row keeps, in its front: its distinct elements other than the loop, in order. -/
theorem tidyRow_spec (loop : α) (xs : Array α) :
    (tidyRow loop xs).1.size = xs.size ∧ (tidyRow loop xs).2 ≤ xs.size ∧
      Ascending (kept (tidyRow loop xs).1 (tidyRow loop xs).2) ∧
      ∀ x, x ∈ kept (tidyRow loop xs).1 (tidyRow loop xs).2 ↔ x ∈ xs.toList ∧ x ≠ loop := by
  have sorted : (xs.toList.mergeSort fun x y => decide (x ≤ y)).Pairwise (· ≤ ·) :=
    List.pairwise_mergeSort' _ _
  have size := size_tidyFrom loop
    (xs.toList.mergeSort fun x y => decide (x ≤ y)).toArray (Nat.le_refl 0)
  obtain ⟨hlen, hasc, hmem⟩ := tidyFrom_spec loop (Nat.le_refl 0) (Nat.zero_le _)
    (by simpa [kept, unread] using sorted) (by simp [kept]) (by simp [kept])
  refine ⟨by simpa [tidyRow] using size, by simpa [tidyRow] using hlen, hasc, fun x => ?_⟩
  rw [tidyRow, hmem]
  simp [kept, unread]

/-- A tidied row keeps each value other than the loop once, in order, whatever the row was. How many it
keeps is the number of these values. -/
theorem tidyRow_keeps_distinct (loop : α) (xs : Array α) :
    (tidyRow loop xs).1.size = xs.size ∧ (tidyRow loop xs).2 ≤ xs.size ∧
      Ascending (kept (tidyRow loop xs).1 (tidyRow loop xs).2) ∧
      (∀ x, (kept (tidyRow loop xs).1 (tidyRow loop xs).2).count x =
        if x ∈ xs ∧ x ≠ loop then 1 else 0) ∧
      (tidyRow loop xs).2 = (xs.toList.toFinset.erase loop).card := by
  obtain ⟨size, front, ascending, holds⟩ := tidyRow_spec loop xs
  have distinct : (kept (tidyRow loop xs).1 (tidyRow loop xs).2).Nodup :=
    List.Pairwise.imp Std.ne_of_lt ascending
  refine ⟨size, front, ascending, fun x => ?_, ?_⟩
  · rw [distinct.count]
    simp only [holds, Array.mem_toList_iff]
  · have values : (kept (tidyRow loop xs).1 (tidyRow loop xs).2).toFinset =
        xs.toList.toFinset.erase loop := by
      ext x
      rw [List.mem_toFinset, holds, Finset.mem_erase, List.mem_toFinset, and_comm]
    rw [← values, List.toFinset_card_of_nodup distinct, kept, List.length_take,
      Array.length_toList, size, Nat.min_eq_left front]

/-- Copies of the loop stand between copies of other values. -/
theorem tidyRow_keeps_distinct_between :
    let row := tidyRow (4 : Int) #[5, 3, 4, 7, 4, 5, -4, 3]
    Ascending (kept row.1 row.2) ∧ (kept row.1 row.2).count 5 = 1 ∧
      (kept row.1 row.2).count 4 = 0 ∧ row.2 = 4 := by
  obtain ⟨-, -, ascending, counted, length⟩ :=
    tidyRow_keeps_distinct (4 : Int) #[5, 3, 4, 7, 4, 5, -4, 3]
  exact ⟨ascending, (counted 5).trans (if_pos (by simp)), (counted 4).trans (if_neg (by simp)),
    length.trans (by decide)⟩

end Order

end Motif.Graph
