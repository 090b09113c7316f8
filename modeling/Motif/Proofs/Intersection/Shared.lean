import Mathlib
import Motif.Proofs.Sorted

/-!
# What two lists share

Equal pairs are counted over positions, so the count is additive in both lists and symmetric,
repetitions or not. On lists without repetitions it is the number of common values.
-/

set_option autoImplicit false

namespace Motif.Intersection

variable {α : Type} [DecidableEq α]

/-- The number of pairs of positions at which two lists hold the same value. -/
def equalPairs (xs ys : List α) : Nat := (xs.map fun x => ys.count x).sum

/-- The number of values that two arrays have in common. -/
def shared (u v : Array α) : Nat := (u.toList.toFinset ∩ v.toList.toFinset).card

@[simp] theorem equalPairs_nil_left (ys : List α) : equalPairs [] ys = 0 := rfl

@[simp] theorem equalPairs_nil_right (xs : List α) : equalPairs xs [] = 0 := by
  simp [equalPairs]

theorem equalPairs_cons_left (x : α) (xs ys : List α) :
    equalPairs (x :: xs) ys = ys.count x + equalPairs xs ys := by
  simp [equalPairs]

theorem equalPairs_append_left (xs₁ xs₂ ys : List α) :
    equalPairs (xs₁ ++ xs₂) ys = equalPairs xs₁ ys + equalPairs xs₂ ys := by
  simp [equalPairs]

theorem equalPairs_append_right (xs ys₁ ys₂ : List α) :
    equalPairs xs (ys₁ ++ ys₂) = equalPairs xs ys₁ + equalPairs xs ys₂ := by
  simp [equalPairs, List.count_append, List.sum_map_add]

theorem equalPairs_singleton_right (xs : List α) (y : α) : equalPairs xs [y] = xs.count y := by
  induction xs with
  | nil => rfl
  | cons x xs ih =>
    have single : [y].count x = if x = y then 1 else 0 := by
      by_cases h : x = y
      · simp [h]
      · simp [h, Ne.symm h]
    rw [equalPairs_cons_left, ih, single, List.count_cons, Nat.add_comm]
    simp only [beq_iff_eq]

theorem equalPairs_comm (xs ys : List α) : equalPairs xs ys = equalPairs ys xs := by
  induction ys with
  | nil => simp
  | cons y ys ih =>
    rw [← List.singleton_append, equalPairs_append_right, equalPairs_append_left, ih,
      equalPairs_singleton_right, equalPairs_cons_left, equalPairs_nil_left, Nat.add_zero]

theorem equalPairs_eq_zero {xs ys : List α} (apart : ∀ x ∈ xs, ∀ y ∈ ys, x ≠ y) :
    equalPairs xs ys = 0 := by
  rw [equalPairs, List.sum_eq_zero]
  intro n hn
  obtain ⟨x, hx, rfl⟩ := List.mem_map.mp hn
  exact List.count_eq_zero.mpr fun hy => apart x hx x hy rfl

/-- If the second list has no repetitions, the elements of the first are counted one by one. -/
theorem equalPairs_eq_countP (xs : List α) {ys : List α} (hys : ys.Nodup) :
    equalPairs xs ys = xs.countP (· ∈ ys) := by
  induction xs with
  | nil => rfl
  | cons x xs ih =>
    rw [equalPairs_cons_left, ih, List.countP_cons, Nat.add_comm]
    by_cases hx : x ∈ ys
    · rw [List.count_eq_one_of_mem hys hx, if_pos (by simpa using hx)]
    · rw [List.count_eq_zero.mpr hx, if_neg (by simpa using hx)]

/-- Without repetitions each common value makes one pair. -/
theorem equalPairs_eq_card {xs ys : List α} (hxs : xs.Nodup) (hys : ys.Nodup) :
    equalPairs xs ys = (xs.toFinset ∩ ys.toFinset).card := by
  induction xs with
  | nil => rfl
  | cons x xs ih =>
    obtain ⟨hx, hxs⟩ := List.nodup_cons.mp hxs
    rw [equalPairs_cons_left, ih hxs, List.toFinset_cons]
    by_cases hmem : x ∈ ys
    · rw [List.count_eq_one_of_mem hys hmem, Finset.insert_inter_of_mem (by simpa using hmem),
        Finset.card_insert_of_notMem (by simp [hx]), Nat.add_comm]
    · rw [List.count_eq_zero.mpr hmem, Finset.insert_inter_of_notMem (by simpa using hmem),
        Nat.zero_add]

section Order

variable [LT α]

/-- Values up to a bound, and values above it. -/
theorem equalPairs_below {xs ys : List α} (a : α) (hxs : ∀ x ∈ xs, ¬ a < x)
    (hys : ∀ y ∈ ys, a < y) : equalPairs xs ys = 0 :=
  equalPairs_eq_zero fun x hx _ hy heq => hxs x hx (heq ▸ hys _ hy)

theorem equalPairs_above {xs ys : List α} (a : α) (hxs : ∀ x ∈ xs, a < x)
    (hys : ∀ y ∈ ys, ¬ a < y) : equalPairs xs ys = 0 := by
  rw [equalPairs_comm]
  exact equalPairs_below a hys hxs

end Order

end Motif.Intersection
