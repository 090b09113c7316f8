import Mathlib
import Motif.Access

/-!
# Marks

An array of marks that stands for a list of distinct numbers. Marks are set and cleared one at a
time, and the list can be read off them.
-/

set_option autoImplicit false

namespace Motif

/-- The marks of distinct numbers below `n`. -/
structure Marks (n : Nat) (marks : Array Bool) (xs : List Nat) : Prop where
  distinct : xs.Nodup
  inside : ∀ x ∈ xs, x < n
  size : marks.size = n
  marked : ∀ x < n, marks[x]? = some (decide (x ∈ xs))

namespace Marks

variable {n v : Nat} {marks : Array Bool} {xs : List Nat}

theorem empty (n : Nat) : Marks n (Array.replicate n false) [] where
  distinct := List.nodup_nil
  inside := by simp
  size := Array.size_replicate
  marked x hx := by simp [hx]

theorem read_eq (h : Marks n marks xs) (hv : v < n) : read marks v = .ok (decide (v ∈ xs)) :=
  read_eq_ok.mpr (h.marked v hv)

/-- Where nothing stands for a mark, no mark is set. -/
theorem eq_replicate (h : Marks n marks []) : marks = Array.replicate n false := by
  apply Array.ext_getElem?
  intro x
  rcases Nat.lt_or_ge x n with hx | hx
  · simpa [hx] using h.marked x hx
  · rw [Array.getElem?_eq_none (h.size ▸ hx), Array.getElem?_eq_none (by simpa using hx)]

theorem length_le (h : Marks n marks xs) : xs.length ≤ n := by
  have inside : xs ⊆ List.range n := fun x hx => List.mem_range.mpr (h.inside x hx)
  simpa using (h.distinct.subperm inside).length_le

theorem set_true (h : Marks n marks xs) (hv : v < n) (fresh : v ∉ xs) :
    ∃ marks', write marks v true = .ok marks' ∧ Marks n marks' (xs ++ [v]) := by
  refine ⟨_, write_of_lt true (h.size ▸ hv), ?_, ?_, by rw [Array.size_set, h.size], ?_⟩
  · rw [List.nodup_append]
    refine ⟨h.distinct, List.nodup_singleton v, fun x hx y hy heq => fresh ?_⟩
    rw [← List.mem_singleton.mp hy, ← heq]
    exact hx
  · intro x hx
    rw [List.mem_append, List.mem_singleton] at hx
    rcases hx with hx | rfl
    · exact h.inside x hx
    · exact hv
  · intro x hx
    rw [Array.getElem?_set]
    split
    case isTrue here => simp [here]
    case isFalse elsewhere =>
      rw [h.marked x hx]
      simp [Ne.symm elsewhere]

theorem set_false {ys : List Nat} (h : Marks n marks xs) (perm : xs.Perm (v :: ys)) :
    ∃ marks', write marks v false = .ok marks' ∧ Marks n marks' ys := by
  have hv : v < n := h.inside v (perm.mem_iff.mpr List.mem_cons_self)
  obtain ⟨fresh, distinct⟩ := List.nodup_cons.mp (perm.nodup_iff.mp h.distinct)
  refine ⟨_, write_of_lt false (h.size ▸ hv), distinct, ?_, by rw [Array.size_set, h.size], ?_⟩
  · exact fun x hx => h.inside x (perm.mem_iff.mpr (List.mem_cons_of_mem v hx))
  · intro x hx
    rw [Array.getElem?_set]
    split
    case isTrue here => simp [← here, fresh]
    case isFalse elsewhere =>
      rw [h.marked x hx]
      simp [perm.mem_iff, Ne.symm elsewhere]

/-- Clearing the marks of a list clears all. -/
theorem clear (h : Marks n marks xs) :
    ∃ marks', xs.foldlM (fun marks v => write marks v false) marks = .ok marks' ∧
      Marks n marks' [] := by
  induction xs generalizing marks with
  | nil => exact ⟨marks, rfl, h⟩
  | cons v xs ih =>
    obtain ⟨marks', cleared, h'⟩ := h.set_false (List.Perm.refl _)
    obtain ⟨marks'', rest, h''⟩ := ih h'
    refine ⟨marks'', ?_, h''⟩
    rw [List.foldlM_cons, cleared]
    exact rest

end Marks

end Motif
