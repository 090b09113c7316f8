import Motif.Proofs.Table.Store

/-!
# Tables changed in place

A machine has words of 64 bits for sizes, whose sums and products wrap, and it writes into its tables
while it works: what was written before a failure stays written. The changes of tables are such
programs here. They find out about every sum and product that wraps, and whatever may fail comes before
the first write. So they end with the tables that the changes give, or fail for the same reason with the
tables they began with.
-/

set_option autoImplicit false

namespace Motif.Table

variable {α : Type}

/-- The columns and cells of a table are counted by words. -/
structure Measured (t : Table α) : Prop where
  columns : t.columnCount < sizeLimit
  cells : t.data.size < sizeLimit

theorem Measured.rowCount_lt {t : Table α} (h : t.Measured) : t.rowCount < sizeLimit := by
  unfold rowCount
  split
  · decide
  · exact Nat.lt_of_le_of_lt (Nat.div_le_self _ _) h.cells

namespace InPlace

section Words

/-- The product of two words, unless it wraps: then it does not divide back. -/
def times? (a b : UInt64) : Option UInt64 :=
  if b = 0 ∨ a * b / b = a then some (a * b) else none

/-- The sum of two words, unless it wraps: then it lies below them. -/
def plus? (a b : UInt64) : Option UInt64 := if a ≤ a + b then some (a + b) else none

/-- How many elements there will be, unless their bytes are no signed word. -/
def capacity? (held more : UInt64) : Option UInt64 := do
  let needed ← plus? held more
  let bytes ← times? needed 4
  if bytes ≤ 0x7fffffffffffffff then some needed else none

/-- A number, if it is a word. -/
def word? (n : Nat) : Option UInt64 := if n < sizeLimit then some (.ofNat n) else none

theorem toNat_word {n : Nat} (h : n < sizeLimit) : (UInt64.ofNat n).toNat = n :=
  UInt64.toNat_ofNat_of_lt' h

theorem times?_eq (a b : UInt64) : times? a b = word? (a.toNat * b.toNat) := by
  unfold times? word?
  by_cases fits : a.toNat * b.toNat < sizeLimit
  · have exact : (a * b).toNat = a.toNat * b.toNat := by
      rw [UInt64.toNat_mul]
      exact Nat.mod_eq_of_lt fits
    have back : b = 0 ∨ a * b / b = a := by
      rcases Nat.eq_zero_or_pos b.toNat with zero | some
      · exact .inl (UInt64.toNat_inj.mp zero)
      · right
        rw [← UInt64.toNat_inj, UInt64.toNat_div, exact, Nat.mul_div_cancel _ some]
    rw [if_pos back, if_pos fits, ← exact, UInt64.ofNat_toNat]
  · have wrapped : ¬ (b = 0 ∨ a * b / b = a) := by
      rintro (rfl | back)
      · exact fits (by simp [sizeLimit])
      · -- a word that divides back is no less than the product, which is none
        have whole := Nat.div_mul_le_self (a * b).toNat b.toNat
        rw [← UInt64.toNat_div, back] at whole
        exact fits (Nat.lt_of_le_of_lt whole (a * b).toNat_lt)
    rw [if_neg wrapped, if_neg fits]

theorem plus?_eq (a b : UInt64) : plus? a b = word? (a.toNat + b.toNat) := by
  have ha : a.toNat < sizeLimit := a.toNat_lt
  have hb : b.toNat < sizeLimit := b.toNat_lt
  have sum : (a + b).toNat = (a.toNat + b.toNat) % sizeLimit := UInt64.toNat_add a b
  unfold plus? word?
  by_cases fits : a.toNat + b.toNat < sizeLimit
  · rw [Nat.mod_eq_of_lt fits] at sum
    rw [if_pos fits, if_pos (UInt64.le_iff_toNat_le.mpr (by omega)), ← sum, UInt64.ofNat_toNat]
  · rw [Nat.mod_eq_sub_mod (Nat.le_of_not_lt fits), Nat.mod_eq_of_lt (by omega)] at sum
    rw [if_neg fits, if_neg (fun above => fits (by have := UInt64.le_iff_toNat_le.mp above; omega))]

theorem capacity?_eq (held more : UInt64) :
    capacity? held more =
      if (held.toNat + more.toNat) * elementSize < byteLimit then
        some (.ofNat (held.toNat + more.toNat))
      else none := by
  have size : (4 : UInt64).toNat = elementSize := rfl
  rw [capacity?, plus?_eq, word?]
  by_cases counted : held.toNat + more.toNat < sizeLimit
  · rw [if_pos counted, Option.bind_eq_bind, Option.bind_some, times?_eq, toNat_word counted, size,
      word?]
    by_cases measured : (held.toNat + more.toNat) * elementSize < sizeLimit
    · have signed : UInt64.ofNat ((held.toNat + more.toNat) * elementSize) ≤ 0x7fffffffffffffff ↔
          (held.toNat + more.toNat) * elementSize < byteLimit := by
        rw [UInt64.le_iff_toNat_le, toNat_word measured]
        exact Nat.lt_succ_iff.symm
      rw [if_pos measured, Option.bind_some]
      simp only [signed]
    · rw [if_neg measured, if_neg fun small => measured (small.trans (by decide))]
      rfl
  · rw [if_neg counted, if_neg fun small => counted (lt_sizeLimit_of_held small)]
    rfl

/-- Whether there is room for some more rows, found out with words alone. -/
def room (grants : Nat → Bool) (held columns rows : UInt64) : Except Error Unit :=
  match times? rows columns with
  | none => .error (.tooManyRows rows.toNat)
  | some more =>
    match capacity? held more with
    | none => .error .capacityExceeded
    | some needed => if grants needed.toNat then .ok () else .error .roomRefused

theorem room_eq {t : Table α} (ht : t.Measured) (grants : Nat → Bool) (rows : UInt64) :
    room grants (.ofNat t.data.size) (.ofNat t.columnCount) rows =
      t.reserveRows (.machine grants) rows.toNat := by
  rw [room, times?_eq, toNat_word ht.columns, word?, Table.reserveRows]
  by_cases counted : rows.toNat * t.columnCount < sizeLimit
  · simp only [if_pos counted, if_neg (Nat.not_le_of_lt counted), capacity?_eq,
      toNat_word ht.cells, toNat_word counted]
    by_cases held : (t.data.size + rows.toNat * t.columnCount) * elementSize < byteLimit
    · simp only [if_pos held, if_neg (Nat.not_le_of_lt held), toNat_word (lt_sizeLimit_of_held held)]
    · simp only [if_neg held, if_pos (Nat.le_of_not_lt held)]
  · simp only [if_neg counted, if_pos (Nat.le_of_not_lt counted)]

end Words

/-- A program that works on a state. The state that it fails with is the one it has come to. -/
abbrev Program (σ : Type) := EStateM Error σ

/-- A program carries out a change: it ends with what the change gives, or fails for the reason that
there is no change, and then with the state that it began with. -/
structure Carries {σ : Type} (p : Program σ Unit) (s : σ) (made : Except Error σ) : Prop where
  done : ∀ s', p.run s = .ok () s' ↔ made = .ok s'
  failed : ∀ e s', p.run s = .error e s' ↔ made = .error e ∧ s' = s

/-- The end of a program that carries out a change. -/
def carried {σ : Type} (s : σ) : Except Error σ → EStateM.Result Error σ Unit
  | .ok s' => .ok () s'
  | .error e => .error e s

theorem carries_of_eq {σ : Type} {p : Program σ Unit} {s : σ} {made : Except Error σ}
    (h : p.run s = carried s made) : Carries p s made := by
  cases made with
  | ok s' => exact ⟨by simp [h, carried], by simp [h, carried]⟩
  | error e => exact ⟨by simp [h, carried], by simp [h, carried, eq_comm]⟩

/-- Lets a program work on the first of two states. -/
def onFirst {σ τ : Type} (p : Program σ Unit) : Program (σ × τ) Unit := fun (s, t) =>
  match p.run s with
  | .ok () s' => .ok () (s', t)
  | .error e s' => .error e (s', t)

def reserveRows (grants : Nat → Bool) (rows : UInt64) : Program (Table α) Unit := do
  let t ← get
  liftExcept (room grants (.ofNat t.data.size) (.ofNat t.columnCount) rows)

def pushRow (grants : Nat → Bool) (row : Array α) : Program (Table α) Unit := do
  let t ← get
  if row.size = t.columnCount then do
    reserveRows grants 1
    modify fun t => { t with data := t.data ++ row }
  else throw (.fault (.wrongRowLength t.columnCount row.size))

/-- Moves the rows of the second table to the end of the first: copies them, then empties the
second. -/
def append (grants : Nat → Bool) : Program (Table α × Table α) Unit := do
  let (t, other) ← get
  if other.isEmpty ∨ other.columnCount = t.columnCount then do
    onFirst (reserveRows grants (.ofNat other.rowCount))
    modify fun (t, other) => ({ t with data := t.data ++ other.data }, other)
    modify fun (t, other) => (t, { other with data := #[] })
  else throw (.fault (.columnsDiffer t.columnCount other.columnCount))

variable {t other : Table α} (grants : Nat → Bool)

theorem run_reserveRows (ht : t.Measured) (rows : UInt64) :
    (reserveRows grants rows).run t =
      carried t ((t.reserveRows (.machine grants) rows.toNat).map fun _ => t) := by
  simp only [reserveRows, EStateM.run_bind, EStateM.run_get, room_eq ht]
  cases t.reserveRows (.machine grants) rows.toNat with
  | ok granted => rfl
  | error e => rfl

theorem run_pushRow (ht : t.Measured) (row : Array α) :
    (pushRow grants row).run t = carried t (t.pushRow (.machine grants) row) := by
  simp only [pushRow, EStateM.run_bind, EStateM.run_get, Table.pushRow]
  split
  case isTrue =>
    rw [EStateM.run_bind, run_reserveRows grants ht 1, show (1 : UInt64).toNat = 1 from rfl]
    cases t.reserveRows (.machine grants) 1 with
    | ok granted => rfl
    | error e => rfl
  case isFalse => rfl

theorem run_append (ht : t.Measured) (hother : other.Measured) :
    (append grants).run (t, other) = carried (t, other) (t.append (.machine grants) other) := by
  simp only [append, EStateM.run_bind, EStateM.run_get, Table.append]
  split
  case isTrue =>
    rw [EStateM.run_bind, EStateM.run, onFirst, run_reserveRows grants ht,
      toNat_word hother.rowCount_lt]
    cases t.reserveRows (.machine grants) other.rowCount with
    | ok granted => rfl
    | error e => rfl
  case isFalse => rfl

theorem category_of_reserveRows {rows : Nat} {e : Error}
    (refused : t.reserveRows (.machine grants) rows = .error e) :
    e.category? = some .outOfMemory := by
  simp only [Table.reserveRows] at refused
  split_ifs at refused
  all_goals
    cases refused
    rfl

/-- Room for a number of rows that makes no size is refused, whatever the words for it come to, and so
is room for more bytes than a signed word counts. A program that fails, for these reasons or any other,
leaves every cell of its tables as it was; one that does not makes the change. -/
theorem failures_keep_tables (ht : t.Measured) (hother : other.Measured) :
    (∀ rows : UInt64, sizeLimit ≤ rows.toNat * t.columnCount →
      (reserveRows grants rows).run t = .error (.tooManyRows rows.toNat) t) ∧
    (∀ rows : UInt64, rows.toNat * t.columnCount < sizeLimit →
      byteLimit ≤ (t.data.size + rows.toNat * t.columnCount) * elementSize →
      (reserveRows grants rows).run t = .error .capacityExceeded t) ∧
    (∀ (rows : UInt64) (e : Error) (t' : Table α), (reserveRows grants rows).run t = .error e t' →
      e.category? = some .outOfMemory) ∧
    (∀ rows : UInt64, Carries (reserveRows grants rows) t
      ((t.reserveRows (.machine grants) rows.toNat).map fun _ => t)) ∧
    (∀ row : Array α, Carries (pushRow grants row) t (t.pushRow (.machine grants) row)) ∧
    Carries (append grants) (t, other) (t.append (.machine grants) other) := by
  refine ⟨?_, ?_, ?_, ?_, ?_, carries_of_eq (run_append grants ht hother)⟩
  · intro rows wrapped
    rw [run_reserveRows grants ht, Table.reserveRows, if_pos wrapped]
    rfl
  · intro rows counted large
    rw [run_reserveRows grants ht, Table.reserveRows, if_neg (Nat.not_le_of_lt counted),
      if_pos large]
    rfl
  · intro rows e t' failed
    rw [run_reserveRows grants ht] at failed
    cases refused : t.reserveRows (.machine grants) rows.toNat with
    | ok granted => simp [refused, Except.map, carried] at failed
    | error e' =>
      simp only [refused, Except.map, carried, EStateM.Result.error.injEq] at failed
      exact failed.1 ▸ category_of_reserveRows grants refused
  · exact fun rows => carries_of_eq (run_reserveRows grants ht rows)
  · exact fun row => carries_of_eq (run_pushRow grants ht row)

/-- A number of rows whose cells come to the word zero, a row for which memory has no room, and a table
with more columns. -/
theorem failures_keep_tables_wrapped :
    let t : Table Nat := ⟨2, #[3, 1, 4, 1]⟩
    let other : Table Nat := ⟨3, #[5, 9, 2]⟩
    t.Measured ∧ other.Measured ∧
      (reserveRows (fun _ => true) 0x8000000000000000).run t =
        .error (.tooManyRows 0x8000000000000000) t ∧
      (pushRow (fun _ => false) #[6, 5]).run t = .error .roomRefused t ∧
      (append fun _ => true).run (t, other) = .error (.fault (.columnsDiffer 2 3)) (t, other) := by
  intro t other
  have ht : t.Measured := ⟨by decide, by decide⟩
  have hother : other.Measured := ⟨by decide, by decide⟩
  refine ⟨ht, hother, ?_, ?_, ?_⟩
  · exact (failures_keep_tables (fun _ => true) ht hother).1 0x8000000000000000 (by decide)
  · obtain ⟨-, -, -, -, pushes, -⟩ := failures_keep_tables (fun _ => false) ht hother
    exact ((pushes #[6, 5]).failed _ _).mpr ⟨rfl, rfl⟩
  · obtain ⟨-, -, -, -, -, appends⟩ := failures_keep_tables (fun _ => true) ht hother
    exact (appends.failed _ _).mpr ⟨rfl, rfl⟩

end InPlace

end Motif.Table
