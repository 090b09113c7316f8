import Mathlib
import Motif.Intersection.Strategy
import Motif.Proofs.Intersection.Kernels

/-!
# Every strategy counts the same

Whatever the width, the loops of a merge keep the count and the last of them completes it. So
kernels need only be right on full blocks for the whole merge to be right.
-/

set_option autoImplicit false

namespace Motif.Intersection

open Sorted

variable {α : Type} [DecidableEq α] [LT α]

/-- Kernels that count on the blocks they are made for. -/
structure Kernels.Counting (kernels : Kernels α) : Prop where
  four : Intersection.Counting 4 kernels.four
  eight : Intersection.Counting 8 kernels.eight
  sixteen : Intersection.Counting 16 kernels.sixteen

variable [IsStrictTotalOrder α (· < ·)]

theorem Kernels.counting_portable : Kernels.Counting (Kernels.portable : Kernels α) :=
  ⟨counting_portableKernel 4, counting_portableKernel 8, counting_portableKernel 16⟩

variable [DecidableLT α] {u v : Array α}

omit [IsStrictTotalOrder α (· < ·)] in
/-- The loops of a merge go block by block with each kernel, along full blocks, and over single elements
at last. -/
theorem forall_mem_loops (width : Width) {kernels : Kernels α} {P : Loop u v → Prop}
    (four : ∀ hl : 0 < 4, P (.blocks u v hl kernels.four))
    (eight : ∀ hl : 0 < 8, P (.blocks u v hl kernels.eight))
    (sixteen : ∀ hl : 0 < 16, P (.blocks u v hl kernels.sixteen))
    (alongU : ∀ {lanes : Nat} (hl : 0 < lanes), P (.alongU u v hl))
    (alongV : ∀ {lanes : Nat} (hl : 0 < lanes), P (.alongV u v hl)) (scalar : P (.scalar u v)) :
    ∀ loop ∈ loops width kernels u v, P loop := by
  have pass (w : Width) {lanes : Nat} (hl : 0 < lanes) {kernel : Kernel α}
      (blocks : P (.blocks u v hl kernel)) :
      ∀ loop ∈ (if w ≤ width then
        [Loop.blocks u v hl kernel, Loop.alongU u v hl, Loop.alongV u v hl] else []), P loop := by
    intro loop hloop
    split at hloop
    · simp only [List.mem_cons, List.not_mem_nil, or_false] at hloop
      rcases hloop with rfl | rfl | rfl
      · exact blocks
      · exact alongU hl
      · exact alongV hl
    · simp at hloop
  intro loop hloop
  rcases List.mem_append.mp hloop with hloop | hloop
  · rcases List.mem_append.mp hloop with hloop | hloop
    · rcases List.mem_append.mp hloop with hloop | hloop
      · exact pass .sixteen (by decide) (sixteen _) loop hloop
      · exact pass .eight (by decide) (eight _) loop hloop
    · exact pass .four (by decide) (four _) loop hloop
  · rw [List.mem_singleton.mp hloop]
    exact scalar

theorem keeps_of_mem_loops (width : Width) {kernels : Kernels α} (hk : kernels.Counting)
    (hu : Ascending u.toList) (hv : Ascending v.toList) :
    ∀ loop ∈ loops width kernels u v, loop.Keeps :=
  forall_mem_loops width (fun hl => Loop.blocks_keeps hl hk.four hu hv)
    (fun hl => Loop.blocks_keeps hl hk.eight hu hv)
    (fun hl => Loop.blocks_keeps hl hk.sixteen hu hv)
    (fun hl => Loop.alongU_keeps hl hu hv) (fun hl => Loop.alongV_keeps hl hu hv)
    (Loop.scalar_keeps hu hv)

/-- With kernels that count on full blocks, the merge counts what two arrays share. -/
theorem size_eq (width : Width) {kernels : Kernels α} (hk : kernels.Counting)
    (hu : Ascending u.toList) (hv : Ascending v.toList) :
    size width kernels u v = .ok (shared u v) := by
  obtain ⟨passes, split⟩ : ∃ passes, loops width kernels u v = passes ++ [Loop.scalar u v] :=
    ⟨_, rfl⟩
  have keeps : ∀ loop ∈ passes, loop.Keeps := fun loop hloop =>
    keeps_of_mem_loops width hk hu hv loop (split ▸ List.mem_append_left _ hloop)
  obtain ⟨d, hd, whole⟩ := Loop.runAll_completes keeps (Loop.scalar_keeps hu hv)
    (fun _ => Loop.scalar_exhausts) Cursor.counts_start
  rw [size, split, hd, shared_eq hu hv, ← whole]
  rfl

/-- Every width counts what two ascending arrays share, with any kernels that count it on full
blocks. The portable kernels do, so lanes change nothing against single comparisons. -/
theorem every_width_counts_shared (hu : Ascending u.toList) (hv : Ascending v.toList)
    (width : Width) :
    (∀ kernels : Kernels α, kernels.Counting → size width kernels u v = .ok (shared u v)) ∧
      Kernels.Counting (Kernels.portable : Kernels α) ∧
      scalarSize u v = .ok (shared u v) ∧
      (Strategy.portable width).size u v = scalarSize u v := by
  refine ⟨fun kernels hk => size_eq width hk hu hv, Kernels.counting_portable,
    scalarSize_eq hu hv, ?_⟩
  rw [scalarSize_eq hu hv]
  exact size_eq width Kernels.counting_portable hu hv

/-- Nine elements against five, some of them negative. -/
theorem every_width_counts_shared_signed :
    Ascending (#[-9, -7, -4, -2, 0, 1, 3, 6, 8] : Array Int).toList ∧
      Ascending (#[-7, -2, 2, 3, 8] : Array Int).toList ∧
      (Strategy.portable .eight).size (#[-9, -7, -4, -2, 0, 1, 3, 6, 8] : Array Int)
        #[-7, -2, 2, 3, 8] = .ok 4 := by
  have ascendingU : Ascending (#[-9, -7, -4, -2, 0, 1, 3, 6, 8] : Array Int).toList := by decide
  have ascendingV : Ascending (#[-7, -2, 2, 3, 8] : Array Int).toList := by decide
  obtain ⟨counts, portable, _, _⟩ := every_width_counts_shared ascendingU ascendingV .eight
  exact ⟨ascendingU, ascendingV, counts .portable portable⟩

end Motif.Intersection
