import Motif.Access

/-!
Rows of equal length, one after the other in one array. A table without columns holds no rows,
however many empty ones are pushed.

Room is asked for before anything is stored. A request is refused outright when its size is no
number of 64 bits, or when the bytes of the whole table are no signed one; within these limits
the memory decides.
-/

set_option autoImplicit false

namespace Motif

/-- Whether room for a number of elements can be had: always, or within the limits of a machine
whenever `grants` says so. -/
inductive Memory where
  | unlimited
  | machine (grants : Nat → Bool)

structure Table (α : Type) where
  columnCount : Nat
  data : Array α
deriving DecidableEq

namespace Table

variable {α : Type}

def empty (columnCount : Nat) : Table α := ⟨columnCount, #[]⟩

/-- A table of the given data, which has to fill its rows. -/
def ofData (columnCount : Nat) (data : Array α) : Except Error (Table α) :=
  if data.isEmpty ∨ (0 < columnCount ∧ data.size % columnCount = 0) then .ok ⟨columnCount, data⟩
  else .error (.fault (.unevenTable data.size columnCount))

def rowCount (t : Table α) : Nat :=
  if t.columnCount = 0 then 0 else t.data.size / t.columnCount

def isEmpty (t : Table α) : Bool := t.data.isEmpty

/-- Row `i`, between bounds that are computed with sizes; a table without columns has the empty row
there. -/
def row (overflow : Overflow) (t : Table α) (i : Nat) : Except Error (Array α) := do
  let start ← overflow.size (i * t.columnCount)
  let behind ← overflow.size (i + 1)
  let stop ← overflow.size (behind * t.columnCount)
  slice t.data start stop

/-- As long as no bound overflows, it makes no difference what would become of it. -/
theorem row_eq_slice {t : Table α} {i : Nat} (number : i + 1 < sizeLimit)
    (stop : (i + 1) * t.columnCount < sizeLimit) (overflow : Overflow) :
    t.row overflow i = slice t.data (i * t.columnCount) ((i + 1) * t.columnCount) := by
  have start : i * t.columnCount < sizeLimit :=
    Nat.lt_of_le_of_lt (Nat.mul_le_mul_right _ (Nat.le_succ i)) stop
  rw [row, overflow.size_of_lt start, ok_bind, overflow.size_of_lt number, ok_bind,
    overflow.size_of_lt stop, ok_bind]

def rows (t : Table α) : List (Array α) :=
  (List.range t.rowCount).map fun i =>
    t.data.extract (i * t.columnCount) ((i + 1) * t.columnCount)

/-- The bytes of an element. -/
def elementSize : Nat := 4

/-- The bytes of a table stay below this number. -/
def byteLimit : Nat := 0x8000000000000000

/-- Makes room for some more rows. -/
def reserveRows (memory : Memory) (t : Table α) (rows : Nat) : Except Error Unit :=
  match memory with
  | .unlimited => .ok ()
  | .machine grants =>
    let more := rows * t.columnCount
    if sizeLimit ≤ more then .error (.tooManyRows rows)
    else if byteLimit ≤ (t.data.size + more) * elementSize then .error .capacityExceeded
    else if grants (t.data.size + more) then .ok ()
    else .error .roomRefused

def pushRow (memory : Memory) (t : Table α) (row : Array α) : Except Error (Table α) :=
  if row.size = t.columnCount then do
    t.reserveRows memory 1
    return { t with data := t.data ++ row }
  else .error (.fault (.wrongRowLength t.columnCount row.size))

/-- Moves the rows of `other` to the end of `t`; gives both tables. -/
def append (memory : Memory) (t other : Table α) : Except Error (Table α × Table α) :=
  if other.isEmpty ∨ other.columnCount = t.columnCount then do
    t.reserveRows memory other.rowCount
    return ({ t with data := t.data ++ other.data }, { other with data := #[] })
  else .error (.fault (.columnsDiffer t.columnCount other.columnCount))

end Table

end Motif
