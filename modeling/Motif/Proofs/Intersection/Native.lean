import Motif.Proofs.Intersection.Strategy

/-!
# The kernels of a processor

A selector and a permutation by computed indices are rotations, so the kernels that use them match
lanes as the portable one does. Matched by halves, an element is counted in each half of the other
block that holds it, which is one at most when its elements differ. So whatever a processor has,
its kernels count.
-/

set_option autoImplicit false

namespace Motif.Intersection

open Sorted

variable {α : Type} {n : Nat}

/-- The selectors are those of the rotations by one, two and three lanes. -/
theorem shuffle_eq_rotate (b : Vector α 4) :
    shuffle 0x39 b = rotate b 1 ∧ shuffle 0x4e b = rotate b 2 ∧ shuffle 0x93 b = rotate b 3 := by
  refine ⟨?_, ?_, ?_⟩
  all_goals
    ext i hi
    simp only [shuffle, rotate, Vector.getElem_ofFn]
    interval_cases i <;> rfl

/-- An index computed with a mask that keeps the remainder by the number of lanes rotates. -/
theorem permute_rotation {mask : Nat} (low : ∀ x, x &&& mask = x % n) (b : Vector α n) (r : Nat) :
    permute (rotation n mask r) b = rotate b r := by
  ext i hi
  simp only [permute, rotation, rotate, Fin.getElem_fin, Vector.getElem_ofFn, low, Nat.mod_mod]

/-- The two halves of a block of sixteen. -/
theorem exists_halves (a : Vector α 16) : ∃ front back : Vector α 8,
    load 8 a.toArray = .ok front ∧ load 8 (a.toArray.extract 8 16) = .ok back ∧
      front.toList ++ back.toList = a.toList := by
  have size : a.toArray.size = 16 := a.size_toArray
  have halves : (a.toArray.extract 8 16).size = 8 := by simp
  refine ⟨⟨a.toArray.extract 0 8, by simp⟩, ⟨a.toArray.extract 8 16, halves⟩, ?_,
    load_eq halves, ?_⟩
  · rw [load, dif_pos (by omega)]
  · have rest : (a.toArray.toList.drop 8).take 8 = a.toArray.toList.drop 8 :=
      List.take_of_length_le (by simp)
    simp [Vector.toList, rest]

variable [DecidableEq α]

theorem matchEight_eq (a b : Vector α 8) : matchEight a b = matchLanes a b := by
  simp only [matchEight, permute_rotation fun x => Nat.and_two_pow_sub_one_eq_mod x 3]
  rfl

theorem matchSixteen_eq (a b : Vector α 16) : matchSixteen a b = matchLanes a b := by
  simp only [matchSixteen, permute_rotation fun x => Nat.and_two_pow_sub_one_eq_mod x 4]
  rfl

theorem matchFour_eq (a b : Vector α 4) : matchFour a b = matchLanes a b := by
  rw [matchLanes_eq]
  obtain ⟨one, two, three⟩ := shuffle_eq_rotate b
  simp only [matchFour, one, two, three]
  apply Mask.count_eq_countP
  intro i hi
  rw [← getElem_rotations a b i hi]
  simp [List.range', Bool.or_assoc]

/-- A kernel that loads two blocks and matches their lanes is the portable one. -/
theorem kernel_eq_portable {lanes : Vector α n → Vector α n → Nat}
    (agrees : ∀ a b, lanes a b = matchLanes a b) :
    (fun a b => do return lanes (← load n a) (← load n b) : Kernel α) = portableKernel n := by
  simp only [agrees]
  rfl

/-- Over the halves of two blocks the counts add up, as long as no element of the second one stands
in both of its halves. -/
theorem matchLanes_halves {a b : Vector α 16} {a0 a1 b0 b1 : Vector α 8}
    (halvesA : a0.toList ++ a1.toList = a.toList) (halvesB : b0.toList ++ b1.toList = b.toList)
    (distinct : b.toList.Nodup) :
    matchLanes a0 b0 + matchLanes a0 b1 + matchLanes a1 b0 + matchLanes a1 b1 = matchLanes a b := by
  have distinct' := distinct
  rw [← halvesB, List.nodup_append] at distinct'
  have matched0 (x : Vector α 8) : matchLanes x b0 = equalPairs x.toList b0.toList := by
    rw [matchLanes_eq, equalPairs_eq_countP _ distinct'.1]
  have matched1 (x : Vector α 8) : matchLanes x b1 = equalPairs x.toList b1.toList := by
    rw [matchLanes_eq, equalPairs_eq_countP _ distinct'.2.1]
  rw [matchLanes_eq a b, ← equalPairs_eq_countP _ distinct, ← halvesA, ← halvesB,
    equalPairs_append_left, equalPairs_append_right, equalPairs_append_right, matched0, matched0,
    matched1, matched1, ← Nat.add_assoc]

/-- Matching by halves is matching, unless an element is repeated in the second block. -/
theorem kernelByHalves_eq {a b : Array α} (distinct : (b.toList.take 16).Nodup) :
    kernelByHalves a b = portableKernel 16 a b := by
  rw [kernelByHalves, portableKernel]
  cases loadedA : load 16 a with
  | error e => rfl
  | ok va =>
    cases loadedB : load 16 b with
    | error e => rfl
    | ok vb =>
      obtain ⟨a0, a1, loadA0, loadA1, halvesA⟩ := exists_halves va
      obtain ⟨b0, b1, loadB0, loadB1, halvesB⟩ := exists_halves vb
      rw [← toList_of_load loadedB] at distinct
      rw [ok_bind, ok_bind, loadA0, ok_bind, loadA1, ok_bind, loadB0, ok_bind, loadB1, ok_bind,
        ok_bind, ok_bind, ← matchLanes_halves halvesA halvesB distinct]
      simp only [matchEight_eq]

/-- Whatever the elements of two blocks, the kernels for four, eight and sixteen lanes count as the
portable one does, and so does matching by halves if the elements of the second block differ. On full
blocks every one of them counts. -/
theorem native_kernels_agree (a b : Array α) :
    kernelFour a b = portableKernel 4 a b ∧ kernelEight a b = portableKernel 8 a b ∧
      kernelSixteen a b = portableKernel 16 a b ∧
      ((b.toList.take 16).Nodup → kernelByHalves a b = portableKernel 16 a b) ∧
      ∀ n, n ≤ a.size → n ≤ b.size → ∃ count, portableKernel n a b = .ok count := by
  refine ⟨?_, ?_, ?_, kernelByHalves_eq, ?_⟩
  · exact congrFun₂ (kernel_eq_portable matchFour_eq) a b
  · exact congrFun₂ (kernel_eq_portable matchEight_eq) a b
  · exact congrFun₂ (kernel_eq_portable matchSixteen_eq) a b
  · intro n fullA fullB
    rw [portableKernel, load, dif_pos fullA, ok_bind, load, dif_pos fullB, ok_bind]
    exact ⟨_, rfl⟩

/-- Values repeated in the first block, within a half and across both. -/
theorem native_kernels_agree_repeated :
    ((Array.range 16).toList.take 16).Nodup ∧
      kernelByHalves #[3, 3, 3, 9, 9, 20, 21, 22, 3, 9, 9, 3, 20, 21, 22, 15] (Array.range 16) =
        .ok 10 := by
  have distinct : ((Array.range 16).toList.take 16).Nodup := by decide
  obtain ⟨-, -, -, halves, -⟩ := native_kernels_agree
    #[3, 3, 3, 9, 9, 20, 21, 22, 3, 9, 9, 3, 20, 21, 22, 15] (Array.range 16)
  refine ⟨distinct, ?_⟩
  rw [halves distinct]
  decide +kernel

/-- An element that stands in both halves of the second block is counted twice. -/
example : kernelByHalves (Array.replicate 16 0) (Array.replicate 16 0) = .ok 32 ∧
    portableKernel 16 (Array.replicate 16 0) (Array.replicate 16 0) = .ok 16 := by
  cbv

section Counting

variable [LT α] [IsStrictTotalOrder α (· < ·)]

/-- A kernel that loads two blocks and matches their lanes counts. -/
theorem counting_of_matchLanes {lanes : Vector α n → Vector α n → Nat}
    (agrees : ∀ a b, lanes a b = matchLanes a b) :
    Counting n fun a b => do return lanes (← load n a) (← load n b) := by
  rw [kernel_eq_portable agrees]
  exact counting_portableKernel n

theorem counting_kernelByHalves : Counting 16 (kernelByHalves (α := α)) := by
  intro a b ha hb hau hbu
  rw [kernelByHalves_eq (hbu.nodup.sublist (List.take_sublist 16 _))]
  exact counting_portableKernel 16 a b ha hb hau hbu

/-- The kernels for the instructions that a processor has count, and so do those it falls back to. -/
theorem Kernels.counting_native {p : Processor} {kernels : Kernels α}
    (native : Kernels.native? p = some kernels) : kernels.Counting := by
  unfold Kernels.native? at native
  split at native
  case isFalse => cases native
  case isTrue =>
    cases native
    refine ⟨counting_of_matchLanes matchFour_eq, ?_, ?_⟩
    · dsimp only
      split
      · exact counting_of_matchLanes matchEight_eq
      · exact counting_portableKernel 8
    · dsimp only
      split
      · exact counting_of_matchLanes matchSixteen_eq
      · split
        · exact counting_kernelByHalves
        · exact counting_portableKernel 16

variable [DecidableLT α]

/-- What is chosen for a processor counts what two ascending arrays share. -/
theorem Strategy.size_detect (p : Processor) {u v : Array α} (hu : Ascending u.toList)
    (hv : Ascending v.toList) : (Strategy.detect p).size u v = .ok (shared u v) := by
  rw [detect, ofWidth]
  split
  case h_1 kernels native => exact size_eq p.width (Kernels.counting_native native) hu hv
  case h_2 => exact size_eq p.width Kernels.counting_portable hu hv

end Counting

end Motif.Intersection
