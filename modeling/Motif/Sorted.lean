/-!
Arrays and lists in order: binary search, and the elements two ascending lists share.
-/

set_option autoImplicit false

namespace Motif.Sorted

variable {α : Type}

/-- Halves the range from `lo` to `hi` until it is empty, going right while the test holds. -/
def partitionFrom (xs : Array α) (test : α → Bool) (lo hi : Nat) (h : hi ≤ xs.size) : Nat :=
  if hlt : lo < hi then
    let mid := lo + (hi - lo) / 2
    have hmid : mid < xs.size := by omega
    if test xs[mid] then partitionFrom xs test (mid + 1) hi h
    else partitionFrom xs test lo mid (Nat.le_of_lt hmid)
  else lo
termination_by hi - lo

/-- Where an array splits, if the elements that pass the test stand before those that fail. -/
def partitionPoint (xs : Array α) (test : α → Bool) : Nat :=
  partitionFrom xs test 0 xs.size (Nat.le_refl _)

variable [LT α] [DecidableLT α] [DecidableEq α]

/-- Whether an ascending array holds `x`, by binary search. -/
def contains (xs : Array α) (x : α) : Bool :=
  xs[partitionPoint xs (fun y => decide (y < x))]? == some x

/-- The values two ascending lists share, by walking both at once. -/
def common : List α → List α → List α
  | [], _ => []
  | _, [] => []
  | x :: xs, y :: ys =>
    if x < y then common xs (y :: ys)
    else if x = y then x :: common xs ys
    else common (x :: xs) ys
termination_by xs ys => xs.length + ys.length

end Motif.Sorted
