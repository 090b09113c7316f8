import Mathlib
import Motif.Intersection.Kernels
import Motif.Proofs.Intersection.Merge

/-!
# Matching by rotations

Rotating one block past the other brings every pair of lanes together once, so the lanes that
agree under some rotation are those whose element the other block holds.
-/

set_option autoImplicit false

namespace Motif.Intersection

open Sorted

variable {α : Type} {n : Nat}

theorem load_eq {block : Array α} (h : block.size = n) : load n block = .ok ⟨block, h⟩ := by
  subst h
  rw [load, dif_pos (Nat.le_refl _)]
  simp only [Array.extract_size]

theorem toList_of_load {block : Array α} {lanes : Vector α n} (loaded : load n block = .ok lanes) :
    lanes.toList = block.toList.take n := by
  unfold load at loaded
  split at loaded
  case isTrue => cases loaded; simp [Vector.toList]
  case isFalse => cases loaded

theorem exists_load {block : Array α} (full : n ≤ block.size) :
    ∃ lanes, load n block = .ok lanes :=
  ⟨_, dif_pos full⟩

namespace Mask

@[simp] theorem getElem_or (a b : Mask n) (i : Nat) (hi : i < n) :
    (a.or b)[i] = (a[i] || b[i]) := by
  simp [Mask.or]

/-- A lane is set at the end if it was set at first or by one of the masks added. -/
theorem getElem_foldl_or (f : Nat → Mask n) (rs : List Nat) (m : Mask n) (i : Nat) (hi : i < n) :
    (rs.foldl (fun m r => m.or (f r)) m)[i] = (m[i] || rs.any fun r => (f r)[i]) := by
  induction rs generalizing m with
  | nil => simp
  | cons r rs ih => rw [List.foldl_cons, ih, getElem_or, List.any_cons, Bool.or_assoc]

theorem full_iff (m : Mask n) : m.full = true ↔ ∀ i (hi : i < n), m[i] = true := by
  simp [Mask.full, Vector.all_eq_true]

/-- A mask that marks the elements passing a test counts them. -/
theorem count_eq_countP {a : Vector α n} {m : Mask n} (test : α → Bool)
    (h : ∀ i (hi : i < n), m[i] = test a[i]) : m.count = a.toList.countP test := by
  have marks : m.toList = a.toList.map test := by
    apply List.ext_getElem (by simp)
    intro i hi _
    simp only [Vector.getElem_toList, List.getElem_map]
    exact h i (by simpa using hi)
  rw [Mask.count, marks, List.count, List.countP_map]
  congr 1
  funext x
  simp

end Mask

variable [DecidableEq α]

@[simp] theorem getElem_equalLanes (a b : Vector α n) (i : Nat) (hi : i < n) :
    (equalLanes a b)[i] = decide (a[i] = b[i]) := by
  simp [equalLanes]

omit [DecidableEq α] in
theorem getElem_rotate (b : Vector α n) (r i : Nat) (hi : i < n) :
    (rotate b r)[i] = b.get ⟨(i + r) % n, Nat.mod_lt _ (Nat.zero_lt_of_lt hi)⟩ := by
  simp [rotate]

omit [DecidableEq α] in
theorem get_mem_toList (b : Vector α n) (j : Fin n) : b.get j ∈ b.toList := by
  rw [Vector.mem_toList_iff, Vector.get_eq_getElem]
  exact Vector.getElem_mem j.isLt

/-- Some rotation by less than the whole length brings any lane to any other. -/
theorem exists_rotation {i j : Nat} (hi : i < n) (hj : j < n) (hne : j ≠ i) :
    ∃ r, 1 ≤ r ∧ r < n ∧ (i + r) % n = j := by
  rcases Nat.lt_or_gt_of_ne hne with hlt | hgt
  · refine ⟨j + n - i, by omega, by omega, ?_⟩
    have : i + (j + n - i) = j + n := by omega
    rw [this, Nat.add_mod_right, Nat.mod_eq_of_lt hj]
  · refine ⟨j - i, by omega, by omega, ?_⟩
    have : i + (j - i) = j := by omega
    rw [this, Nat.mod_eq_of_lt hj]

/-- The lanes that agree under some rotation hold what the other block holds. -/
theorem getElem_rotations (a b : Vector α n) (i : Nat) (hi : i < n) :
    ((List.range' 1 (n - 1)).foldl (fun m r => m.or (equalLanes a (rotate b r)))
      (equalLanes a b))[i] = decide (a[i] ∈ b.toList) := by
  rw [Mask.getElem_foldl_or, Bool.eq_iff_iff]
  simp only [getElem_equalLanes, getElem_rotate, Bool.or_eq_true, decide_eq_true_eq,
    List.any_eq_true, List.mem_range'_1]
  constructor
  · rintro (heq | ⟨r, _, heq⟩)
    · exact heq ▸ get_mem_toList b ⟨i, hi⟩
    · exact heq ▸ get_mem_toList b _
  · intro hmem
    obtain ⟨j, hj, heq⟩ := Vector.mem_iff_getElem.mp (Vector.mem_toList_iff.mp hmem)
    by_cases hji : j = i
    · subst hji
      exact .inl heq.symm
    · obtain ⟨r, hr, hrn, rfl⟩ := exists_rotation hi hj hji
      exact .inr ⟨r, by omega, heq.symm⟩

/-- Matching counts the elements of the first block that the second one holds. -/
theorem matchLanes_eq (a b : Vector α n) : matchLanes a b = a.toList.countP (· ∈ b.toList) := by
  simp only [matchLanes]
  split
  case isTrue straight =>
    rw [Mask.full_iff] at straight
    have held : ∀ x ∈ a.toList, decide (x ∈ b.toList) = true := by
      intro x hx
      obtain ⟨i, hi, rfl⟩ := Vector.mem_iff_getElem.mp (Vector.mem_toList_iff.mp hx)
      have heq := straight i hi
      rw [getElem_equalLanes, decide_eq_true_eq] at heq
      rw [heq, decide_eq_true_eq]
      exact get_mem_toList b ⟨i, hi⟩
    rw [List.countP_eq_length.mpr held, Vector.length_toList]
  case isFalse => exact Mask.count_eq_countP _ (getElem_rotations a b)

omit [DecidableEq α] in
/-- Elements of a front that pass a test are counted by their positions. -/
theorem countP_take_eq_card (test : α → Bool) {xs : List α} {n : Nat} (inside : n ≤ xs.length) :
    (xs.take n).countP test = ((Finset.range n).filter fun i => xs[i]?.any test).card := by
  rw [Finset.card_filter]
  induction n with
  | zero => rfl
  | succ n ih =>
    rw [List.take_succ_eq_append_getElem inside, List.countP_append, ih (Nat.le_of_lt inside),
      Finset.sum_range_succ, List.countP_singleton, List.getElem?_eq_getElem inside,
      Option.any_some]

/-- On blocks that are full, or longer, the portable kernel counts the lanes of the first one whose element
some lane of the second one has, whatever is repeated or comes behind the lanes. Blocks with the same
lanes match in all of them. -/
theorem portableKernel_counts_lanes {a b : Array α} (fullA : n ≤ a.size) (fullB : n ≤ b.size) :
    portableKernel n a b =
        .ok ((Finset.range n).filter fun i => ∃ j < n, a[i]? = b[j]?).card ∧
      ((∀ i < n, a[i]? = b[i]?) → portableKernel n a b = .ok n) := by
  obtain ⟨lanesA, loadedA⟩ := exists_load fullA
  obtain ⟨lanesB, loadedB⟩ := exists_load fullB
  have held : ∀ i ∈ Finset.range n,
      (a.toList[i]?.any fun x => decide (x ∈ b.toList.take n)) = true ↔
        ∃ j < n, a[i]? = b[j]? := by
    intro i hi
    have hi : i < a.size := Nat.lt_of_lt_of_le (Finset.mem_range.mp hi) fullA
    rw [Array.getElem?_toList, Array.getElem?_eq_getElem hi, Option.any_some, decide_eq_true_iff,
      List.mem_take_iff_getElem]
    constructor
    · rintro ⟨j, hj, same⟩
      rw [Array.length_toList] at hj
      rw [Array.getElem_toList] at same
      exact ⟨j, by omega, by rw [Array.getElem?_eq_getElem (by omega), same]⟩
    · rintro ⟨j, hj, same⟩
      obtain ⟨inside, same⟩ := Array.getElem?_eq_some_iff.mp same.symm
      exact ⟨j, by rw [Array.length_toList]; omega, same⟩
  have counted : portableKernel n a b =
      .ok ((Finset.range n).filter fun i => ∃ j < n, a[i]? = b[j]?).card := by
    rw [portableKernel, loadedA, ok_bind, loadedB, ok_bind, matchLanes_eq, toList_of_load loadedA,
      toList_of_load loadedB, countP_take_eq_card _ (by simpa using fullA),
      Finset.filter_congr held]
    rfl
  refine ⟨counted, fun same => ?_⟩
  have all : ∀ i ∈ Finset.range n, ∃ j < n, a[i]? = b[j]? := fun i hi =>
    ⟨i, Finset.mem_range.mp hi, same i (Finset.mem_range.mp hi)⟩
  rw [counted, Finset.filter_true_of_mem all, Finset.card_range]

/-- Repeated elements, and a `9` that the second block has behind its lanes only. -/
theorem portableKernel_counts_lanes_repeated :
    let a : Array Int := #[3, 3, -1, 9, 7]
    let b : Array Int := #[5, 3, 3, -1, 9]
    4 ≤ a.size ∧ 4 ≤ b.size ∧ portableKernel 4 a b = .ok 3 ∧ portableKernel 4 a a = .ok 4 := by
  intro a b
  have fullA : 4 ≤ a.size := by decide
  have fullB : 4 ≤ b.size := by decide
  refine ⟨fullA, fullB, ?_, ?_⟩
  · rw [(portableKernel_counts_lanes fullA fullB).1]
    decide
  · exact (portableKernel_counts_lanes fullA fullA).2 fun _ _ => rfl

variable [LT α] [IsStrictTotalOrder α (· < ·)]

/-- The portable kernel counts, for any number of lanes. -/
theorem counting_portableKernel (n : Nat) : Counting n (portableKernel (α := α) n) := by
  intro a b ha hb hau hbu
  rw [portableKernel, load_eq ha, ok_bind, load_eq hb, ok_bind, matchLanes_eq,
    shared_eq hau hbu, equalPairs_eq_countP _ hbu.nodup]
  rfl

end Motif.Intersection
