import Motif.Proofs.Table.Store

/-!
# Room for what is made

A run that stores rows asks a memory for room. As long as there is room for what it makes in the end, it
comes to the same as with no limit at all, because nothing on the way is larger. With less it may come to
the same as well, or fails for want of memory: a limit never makes it come to anything else.
-/

set_option autoImplicit false

namespace Motif

variable {α β : Type}

/-- A failure for want of memory. -/
def Exhausted (x : Except Error α) : Prop :=
  ∃ e : Error, x = .error e ∧ e.category? = some .outOfMemory

theorem Exhausted.bind {x : Except Error α} (h : Exhausted x) (f : α → Except Error β) :
    Exhausted (x >>= f) := by
  obtain ⟨e, rfl, category⟩ := h
  exact ⟨e, rfl, category⟩

/-- Room for so many elements can be had, and for fewer. -/
def Memory.Holds (n : Nat) : Memory → Prop
  | .unlimited => True
  | .machine grants => n * Table.elementSize < Table.byteLimit ∧ ∀ m ≤ n, grants m = true

theorem Memory.Holds.mono {memory : Memory} {m n : Nat} (h : memory.Holds n) (le : m ≤ n) :
    memory.Holds m := by
  cases memory with
  | unlimited => trivial
  | machine grants =>
    exact ⟨Nat.lt_of_le_of_lt (Nat.mul_le_mul_right _ le) h.1, fun k hk => h.2 k (hk.trans le)⟩

/-- What a run comes to, when that needs so much room. -/
structure Gives (run : Memory → Except Error α) (size : Nat) (a : α) : Prop where
  held : ∀ memory : Memory, memory.Holds size → run memory = .ok a
  limited : ∀ memory, run memory = .ok a ∨ Exhausted (run memory)

/-- A run that begins with so much stored and never stores less. A limit of memory is all that can make
a difference to it. -/
structure Asks (run : Memory → Except Error α) (stored : Nat) (size : α → Nat) : Prop where
  grows : ∀ a, run .unlimited = .ok a → stored ≤ size a
  gives : ∀ a, run .unlimited = .ok a → Gives run (size a) a
  fails : ∀ e, run .unlimited = .error e → ∀ memory, run memory = .error e ∨ Exhausted (run memory)

namespace Asks

variable {run : Memory → Except Error α} {next : Memory → α → Except Error β} {stored : Nat}
  {size : α → Nat} {size' : β → Nat}

theorem const {x : Except Error α} (grows : ∀ a, x = .ok a → stored ≤ size a) :
    Asks (fun _ => x) stored size where
  grows := grows
  gives _ given := ⟨fun _ _ => given, fun _ => .inl given⟩
  fails _ failed _ := .inl failed

theorem ok {a : α} (le : stored ≤ size a) : Asks (fun _ => .ok a) stored size := by
  refine const ?_
  rintro _ ⟨⟩
  exact le

theorem error (e : Error) : Asks (fun _ => .error e) stored size := by
  refine const ?_
  rintro _ ⟨⟩

/-- What was stored before the run stays stored while it goes on. -/
theorem beside (h : Asks run stored size) (n : Nat) : Asks run n fun a => max n (size a) where
  grows _ _ := Nat.le_max_left _ _
  gives a given :=
    ⟨fun memory holds => (h.gives a given).held memory (holds.mono (Nat.le_max_right _ _)),
      (h.gives a given).limited⟩
  fails := h.fails

theorem bind (first : Asks run stored size)
    (second : ∀ a, run .unlimited = .ok a → Asks (next · a) (size a) size') :
    Asks (fun memory => run memory >>= next memory) stored size' where
  grows b given := by
    obtain ⟨a, ran, went⟩ := bind_eq_ok.mp given
    exact (first.grows a ran).trans ((second a ran).grows b went)
  gives b given := by
    obtain ⟨a, ran, went⟩ := bind_eq_ok.mp given
    constructor
    · intro memory holds
      rw [(first.gives a ran).held memory (holds.mono ((second a ran).grows b went)), ok_bind]
      exact ((second a ran).gives b went).held memory holds
    · intro memory
      rcases (first.gives a ran).limited memory with same | short
      · rw [same]
        exact ((second a ran).gives b went).limited memory
      · exact .inr (short.bind _)
  fails e failed memory := by
    cases ran : run .unlimited with
    | error e' =>
      rw [ran] at failed
      obtain rfl : e' = e := Except.error.inj failed
      rcases first.fails e' ran memory with same | short
      · rw [same]
        exact .inl rfl
      · exact .inr (short.bind _)
    | ok a =>
      rw [ran] at failed
      rcases (first.gives a ran).limited memory with same | short
      · rw [same]
        exact (second a ran).fails e failed memory
      · exact .inr (short.bind _)

/-- A first part that asks for nothing. -/
theorem after {γ : Type} {x : Except Error γ} {next : Memory → γ → Except Error α}
    (second : ∀ c, Asks (next · c) stored size) :
    Asks (fun memory => x >>= next memory) stored size := by
  have first : Asks (fun _ => x) stored fun _ => stored := const fun _ _ => Nat.le_refl _
  exact first.bind fun c _ => second c

theorem foldlM {γ : Type} {step : Memory → α → γ → Except Error α}
    (steps : ∀ a c, Asks (step · a c) (size a) size) (cs : List γ) (a : α) :
    Asks (fun memory => cs.foldlM (step memory) a) (size a) size := by
  induction cs generalizing a with
  | nil => exact ok (Nat.le_refl _)
  | cons c cs ih =>
    simp only [List.foldlM_cons]
    exact (steps a c).bind fun a' _ => ih a'

/-- Under a limit, an answer is the one that there is without it. -/
theorem unlimited_of_ok (h : Asks run stored size) {memory : Memory} {a : α}
    (given : run memory = .ok a) : run .unlimited = .ok a := by
  have not_short : ¬ Exhausted (run memory) := by
    rintro ⟨e, short, -⟩
    rw [given] at short
    cases short
  cases ran : run .unlimited with
  | ok a' =>
    have same := ((h.gives a' ran).limited memory).resolve_right not_short
    exact same.symm.trans given
  | error e =>
    have failed := (h.fails e ran memory).resolve_right not_short
    rw [given] at failed
    cases failed

end Asks

namespace Table

variable {memory : Memory}

theorem reserveRows_of_holds {n : Nat} (holds : memory.Holds n) {t : Table α} {rows : Nat}
    (fits : t.data.size + rows * t.columnCount ≤ n) : t.reserveRows memory rows = .ok () := by
  cases memory with
  | unlimited => rfl
  | machine grants =>
    obtain ⟨held, granted⟩ := holds
    have small : (t.data.size + rows * t.columnCount) * elementSize < byteLimit :=
      Nat.lt_of_le_of_lt (Nat.mul_le_mul_right _ fits) held
    have counted := lt_sizeLimit_of_held small
    simp only [reserveRows]
    rw [if_neg (by omega), if_neg (Nat.not_le_of_lt small), if_pos (granted _ fits)]

theorem rowCount_mul_le (t : Table α) : t.rowCount * t.columnCount ≤ t.data.size := by
  unfold rowCount
  split
  · rw [Nat.zero_mul]
    exact Nat.zero_le _
  · exact Nat.div_mul_le_self _ _

theorem reserveRows_eq_ok_or_exhausted (t : Table α) (rows : Nat) :
    t.reserveRows memory rows = .ok () ∨ Exhausted (t.reserveRows memory rows) := by
  cases memory with
  | unlimited => exact .inl rfl
  | machine grants =>
    simp only [reserveRows]
    split_ifs
    · exact .inr ⟨_, rfl, rfl⟩
    · exact .inr ⟨_, rfl, rfl⟩
    · exact .inl rfl
    · exact .inr ⟨_, rfl, rfl⟩

/-- Asking for room is all that a memory is asked. -/
theorem asks_reserveRows (t : Table α) (rows : Nat) {stored n : Nat} (le : stored ≤ n)
    (fits : t.data.size + rows * t.columnCount ≤ n) :
    Asks (fun memory => t.reserveRows memory rows) stored fun _ => n where
  grows _ _ := le
  gives _ _ :=
    ⟨fun _ holds => reserveRows_of_holds holds fits, fun _ => t.reserveRows_eq_ok_or_exhausted rows⟩
  fails _ failed := by cases failed

theorem asks_pushRow (t : Table α) (row : Array α) :
    Asks (fun memory => t.pushRow memory row) t.data.size (·.data.size) := by
  unfold pushRow
  split
  case isTrue size =>
    refine (t.asks_reserveRows 1 (Nat.le_add_right _ row.size) ?_).bind fun _ _ => .ok ?_
    · rw [size, Nat.one_mul]
    · rw [Array.size_append]
  case isFalse => exact .error _

theorem asks_append (t other : Table α) :
    Asks (fun memory => t.append memory other) (max t.data.size other.data.size)
      (·.1.data.size) := by
  unfold append
  split
  case isTrue fits =>
    refine (t.asks_reserveRows other.rowCount (n := t.data.size + other.data.size) ?_ ?_).bind
      fun _ _ => .ok ?_
    · exact Nat.max_le.mpr ⟨Nat.le_add_right _ _, Nat.le_add_left _ _⟩
    · refine Nat.add_le_add_left ?_ _
      rcases fits with empty | same
      · rw [isEmpty, Array.isEmpty_iff_size_eq_zero] at empty
        simp [rowCount, empty]
      · exact same ▸ other.rowCount_mul_le
    · rw [Array.size_append]
  case isFalse => exact .error _

end Table

end Motif
