import Motif.Proofs.Intersection.Course

/-!
# What a merge has counted

A cursor stands between the positions that it has passed and those that it has not. At the head of every
turn of a merge of ascending arrays, the count is the number of pairs of equal elements of which it has
passed one. A block that is kept may be compared again, but only with what has not been passed yet, so no
pair is counted twice. A loop that ends the merge leaves no pair behind.
-/

set_option autoImplicit false

namespace Motif.Intersection

open Sorted

variable {α : Type} [DecidableEq α]

section Positions

/-- The pairs of positions at which two lists hold the same element. -/
def equalPositions (xs ys : List α) : Finset (Nat × Nat) :=
  {p ∈ Finset.range xs.length ×ˢ Finset.range ys.length | xs[p.1]? = ys[p.2]?}

theorem mem_equalPositions {xs ys : List α} {p q : Nat} :
    (p, q) ∈ equalPositions xs ys ↔ (p < xs.length ∧ q < ys.length) ∧ xs[p]? = ys[q]? := by
  simp [equalPositions]

theorem sum_positions_eq_count (x : α) (ys : List α) :
    ∑ q ∈ Finset.range ys.length, (if some x = ys[q]? then 1 else 0) = ys.count x := by
  induction ys with
  | nil => rfl
  | cons y ys ih =>
    rw [List.length_cons, Finset.sum_range_succ', List.count_cons]
    simp only [List.getElem?_cons_succ, List.getElem?_cons_zero, ih, Option.some.injEq, beq_iff_eq,
      eq_comm (a := x)]

theorem card_equalPositions (xs ys : List α) : (equalPositions xs ys).card = equalPairs xs ys := by
  rw [equalPositions, Finset.card_filter, Finset.sum_product]
  induction xs with
  | nil => rfl
  | cons x xs ih =>
    rw [List.length_cons, Finset.sum_range_succ', equalPairs_cons_left]
    simp only [List.getElem?_cons_succ, List.getElem?_cons_zero, ih, sum_positions_eq_count]
    exact Nat.add_comm _ _

/-- Of these, the pairs of which a cursor has passed a position. -/
def Cursor.passedPairs (u v : Array α) (c : Cursor) : Finset (Nat × Nat) :=
  {p ∈ equalPositions u.toList v.toList | p.1 < c.i ∨ p.2 < c.j}

def Cursor.pairsAhead (u v : Array α) (c : Cursor) : Finset (Nat × Nat) :=
  {p ∈ equalPositions u.toList v.toList | ¬(p.1 < c.i ∨ p.2 < c.j)}

variable {u v : Array α} {c : Cursor}

/-- What a cursor has before it are the pairs of the rests of both lists, moved to their places. -/
theorem Cursor.card_pairsAhead (u v : Array α) (c : Cursor) :
    (c.pairsAhead u v).card = equalPairs (u.toList.drop c.i) (v.toList.drop c.j) := by
  rw [← card_equalPositions]
  symm
  apply Finset.card_nbij' (fun p => (c.i + p.1, c.j + p.2)) (fun p => (p.1 - c.i, p.2 - c.j))
  · rintro ⟨p, q⟩ hp
    simp only [Finset.mem_coe, mem_equalPositions, List.length_drop, List.getElem?_drop] at hp
    obtain ⟨inside, same⟩ := hp
    simp only [pairsAhead, Finset.mem_coe, Finset.mem_filter, mem_equalPositions]
    exact ⟨⟨by omega, same⟩, by omega⟩
  · rintro ⟨p, q⟩ hp
    simp only [pairsAhead, Finset.mem_coe, Finset.mem_filter, mem_equalPositions] at hp
    obtain ⟨⟨inside, same⟩, ahead⟩ := hp
    have first : c.i + (p - c.i) = p := by omega
    have second : c.j + (q - c.j) = q := by omega
    simp only [Finset.mem_coe, mem_equalPositions, List.length_drop, List.getElem?_drop, first,
      second]
    exact ⟨by omega, same⟩
  · rintro ⟨p, q⟩ -
    simp
  · rintro ⟨p, q⟩ hp
    simp only [pairsAhead, Finset.mem_coe, Finset.mem_filter] at hp
    simp only [Prod.mk.injEq]
    omega

theorem Cursor.ne_of_pairsAhead {c : Cursor} (none : c.pairsAhead u v = ∅) {p q : Nat} (hp : p < u.size)
    (hq : q < v.size) (hi : c.i ≤ p) (hj : c.j ≤ q) : u[p] ≠ v[q] := by
  intro same
  have ahead : (p, q) ∈ c.pairsAhead u v := by
    simp [pairsAhead, mem_equalPositions, hp, hq, same, hi, hj]
  rw [none] at ahead
  exact Finset.notMem_empty _ ahead

theorem Cursor.counts_iff : c.Counts u v ↔ c.total = (c.passedPairs u v).card := by
  have parts : (c.passedPairs u v).card + (c.pairsAhead u v).card = equalPairs u.toList v.toList := by
    rw [← card_equalPositions]
    exact Finset.card_filter_add_card_filter_not _
  rw [card_pairsAhead] at parts
  unfold Counts
  omega

end Positions

section Merge

variable {u v : Array α} {c : Cursor}

theorem Loop.Reaches.counts {all rest : List (Loop u v)} (keeps : ∀ loop ∈ all, loop.Keeps)
    (h : Reaches all rest c) : c.Counts u v :=
  h.invariant Cursor.counts_start fun loop hloop _ _ counts again =>
    Keeps.sound (keeps loop hloop) counts again

variable [LT α] [DecidableLT α] [IsStrictTotalOrder α (· < ·)] {kernels : Kernels α}

/-- Wherever a merge of ascending arrays stands, with any width and any kernels that count on full blocks,
it has counted the pairs of equal elements of which it has passed one. The loop that comes next hands over
such a count, and if it ends the merge, no such pair is ahead of the cursor any more. -/
theorem merge_counts_passed (hu : Ascending u.toList) (hv : Ascending v.toList)
    (hk : kernels.Counting) (width : Width) :
    (∀ rest c, Loop.Reaches (loops width kernels u v) rest c →
      c.total = (c.passedPairs u v).card ∧
      ∀ loop ∈ rest.head?, ∃ d goesOn, loop.run c = .ok (d, goesOn) ∧
        Loop.Reaches (loops width kernels u v) rest d ∧
        (goesOn = true → Loop.Reaches (loops width kernels u v) rest.tail d) ∧
        (goesOn = false → ∀ p q (hp : p < u.size) (hq : q < v.size),
          d.i ≤ p → d.j ≤ q → u[p] ≠ v[q])) ∧
    ∃ rest d, Loop.Reaches (loops width kernels u v) rest d ∧
      size width kernels u v = .ok d.total := by
  have keeps : ∀ loop ∈ loops width kernels u v, loop.Keeps := keeps_of_mem_loops width hk hu hv
  have turns {loop rest c} (h : Loop.Reaches (loops width kernels u v) (loop :: rest) c) :
      ∃ t, loop.turn c = .ok t := by
    obtain ⟨t, turned, -⟩ := keeps loop h.mem (h.counts keeps)
    exact ⟨t, turned⟩
  constructor
  · intro rest c reached
    refine ⟨Cursor.counts_iff.mp (reached.counts keeps), ?_⟩
    intro loop head
    obtain ⟨rest, rfl⟩ : ∃ tail, rest = loop :: tail := List.head?_eq_some_iff.mp head
    obtain ⟨d, goesOn, ran, here, next⟩ := reached.exists_run turns
    refine ⟨d, goesOn, ran, here, next, ?_⟩
    rintro rfl p q hp hq hi hj
    have nothing : equalPairs (u.toList.drop d.i) (v.toList.drop d.j) = 0 :=
      Loop.Keeps.sound (keeps loop here.mem) (here.counts keeps) (Loop.turn_of_run ran)
    rw [← Cursor.card_pairsAhead, Finset.card_eq_zero] at nothing
    exact Cursor.ne_of_pairsAhead nothing hp hq hi hj
  · obtain ⟨d, rest, ran, reached⟩ := Loop.Reaches.start.exists_runAll turns
    exact ⟨rest, d, reached, by rw [size, ran, ok_bind, pure_eq_ok]⟩

/-- Blocks of four: after the first comparison one side is kept, with three pairs counted. -/
theorem merge_counts_passed_block :
    let u : Array Nat := #[1, 2, 3, 4, 9]
    let v : Array Nat := #[2, 3, 4, 5, 9, 10]
    Ascending u.toList ∧ Ascending v.toList ∧ Kernels.Counting (Kernels.portable : Kernels Nat) ∧
      ∃ rest, Loop.Reaches (loops .four .portable u v) rest ⟨4, 0, 3⟩ ∧
        (Cursor.passedPairs u v ⟨4, 0, 3⟩).card = 3 := by
  intro u v
  have ascendingU : Ascending u.toList := by decide
  have ascendingV : Ascending v.toList := by decide
  obtain ⟨counted, -⟩ :=
    merge_counts_passed ascendingU ascendingV Kernels.counting_portable .four
  have first : Loop.Reaches (loops .four .portable u v)
      [.blocks u v (Nat.succ_pos 3) (portableKernel 4), .alongU u v (Nat.succ_pos 3),
        .alongV u v (Nat.succ_pos 3), .scalar u v] .start := .start
  have reached := first.again (d := ⟨4, 0, 3⟩) (by cbv)
  exact ⟨ascendingU, ascendingV, Kernels.counting_portable, _, reached, (counted _ _ reached).1.symm⟩

end Merge

end Motif.Intersection
