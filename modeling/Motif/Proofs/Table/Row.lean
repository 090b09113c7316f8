import Motif.Proofs.Table.InPlace

/-!
# Reading one row

A row is read between two bounds, a product and the one after it. Below the number of rows none of them
overflows, and the row that is read is the block of cells that the data hold there. Far behind the last row
a bound may be no size. Where overflow is checked, the access fails then, as it does everywhere else behind
the last row. Where sizes wrap, what is left of the bounds may lie inside the data again, and then other
cells are read without a word: the exact condition for this is stated too.
-/

set_option autoImplicit false

namespace Motif.Table

variable {α : Type} {t : Table α} {i : Nat}

namespace InPlace

/-- What an operation on words comes to: the exact word, unless it wraps, or else what is left. -/
def settled (overflow : Overflow) (exact : Option UInt64) (left : UInt64) : Except Error UInt64 :=
  match overflow, exact with
  | .checked, some w => .ok w
  | .checked, none => .error (.fault .overflow)
  | .wrapping, _ => .ok left

def product (overflow : Overflow) (a b : UInt64) : Except Error UInt64 :=
  settled overflow (times? a b) (a * b)

def sum (overflow : Overflow) (a b : UInt64) : Except Error UInt64 :=
  settled overflow (plus? a b) (a + b)

/-- A row of the table, between bounds computed with words. -/
def row (overflow : Overflow) (t : Table α) (i : UInt64) : Except Error (Array α) := do
  let start ← product overflow i (.ofNat t.columnCount)
  let behind ← sum overflow i 1
  let stop ← product overflow behind (.ofNat t.columnCount)
  slice t.data start.toNat stop.toNat

theorem settled_bind {overflow : Overflow} {β : Type} {n : Nat} {left : UInt64}
    (rest : left.toNat = n % sizeLimit) {f : UInt64 → Except Error β} {g : Nat → Except Error β}
    (same : ∀ w : UInt64, f w = g w.toNat) :
    (settled overflow (word? n) left >>= f) = (overflow.size n >>= g) := by
  cases overflow with
  | checked =>
    unfold word? Overflow.size fit
    split
    case isTrue fits => exact (same _).trans (congrArg g (toNat_word fits))
    case isFalse => rfl
  | wrapping => exact (same left).trans (congrArg g rest)

theorem product_bind {overflow : Overflow} {β : Type} {columns : Nat} (h : columns < sizeLimit)
    {a : UInt64} {f : UInt64 → Except Error β} {g : Nat → Except Error β}
    (same : ∀ w : UInt64, f w = g w.toNat) :
    (product overflow a (.ofNat columns) >>= f) = (overflow.size (a.toNat * columns) >>= g) := by
  have rest := UInt64.toNat_mul a (.ofNat columns)
  rw [product, times?_eq]
  rw [toNat_word h] at rest ⊢
  exact settled_bind rest same

theorem sum_bind {overflow : Overflow} {β : Type} {a b : UInt64} {f : UInt64 → Except Error β}
    {g : Nat → Except Error β} (same : ∀ w : UInt64, f w = g w.toNat) :
    (sum overflow a b >>= f) = (overflow.size (a.toNat + b.toNat) >>= g) := by
  rw [sum, plus?_eq]
  exact settled_bind (UInt64.toNat_add a b) same

theorem row_eq (overflow : Overflow) (columns : t.columnCount < sizeLimit) (i : UInt64) :
    row overflow t i = t.row overflow i.toNat := by
  refine product_bind columns fun start => ?_
  refine sum_bind fun behind => ?_
  refine product_bind columns fun stop => ?_
  rfl

end InPlace

namespace Store

variable [DecidableEq α]

end Store

end Motif.Table
