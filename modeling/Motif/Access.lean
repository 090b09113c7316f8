import Motif.Error

/-!
Reading and writing arrays at positions that come from data, and arithmetic on sizes. A position
that does not exist is a fault, and so is a number that is no size, unless it is reduced to one;
`read_of_lt` and its companions say that nothing else is.
-/

set_option autoImplicit false

namespace Motif

variable {α β ε : Type}

@[simp] theorem ok_bind (a : α) (f : α → Except ε β) : (Except.ok a >>= f) = f a := rfl

@[simp] theorem error_bind (e : ε) (f : α → Except ε β) :
    ((Except.error e : Except ε α) >>= f) = .error e := rfl

@[simp] theorem pure_eq_ok (a : α) : (pure a : Except ε α) = .ok a := rfl

/-- A sequence succeeds exactly when its first part does and the rest does on what that gives. -/
theorem bind_eq_ok {x : Except ε α} {f : α → Except ε β} {b : β} :
    (x >>= f) = .ok b ↔ ∃ a, x = .ok a ∧ f a = .ok b := by
  cases x <;> simp

def read (xs : Array α) (i : Nat) : Except Error α :=
  match xs[i]? with
  | some x => .ok x
  | none => .error (.fault (.outOfRange i xs.size))

theorem read_of_lt {xs : Array α} {i : Nat} (h : i < xs.size) : read xs i = .ok xs[i] := by
  simp [read, h]

theorem read_eq_ok {xs : Array α} {i : Nat} {x : α} : read xs i = .ok x ↔ xs[i]? = some x := by
  unfold read
  cases xs[i]? <;> simp

def write (xs : Array α) (i : Nat) (x : α) : Except Error (Array α) :=
  if h : i < xs.size then .ok (xs.set i x) else .error (.fault (.outOfRange i xs.size))

theorem write_of_lt {xs : Array α} {i : Nat} (x : α) (h : i < xs.size) :
    write xs i x = .ok (xs.set i x) := by
  simp [write, h]

/-- Replaces the element at position `i` by its image under `f`. -/
def update (xs : Array α) (i : Nat) (f : α → α) : Except Error (Array α) :=
  if h : i < xs.size then .ok (xs.set i (f xs[i])) else .error (.fault (.outOfRange i xs.size))

theorem update_of_lt {xs : Array α} {i : Nat} (f : α → α) (h : i < xs.size) :
    update xs i f = .ok (xs.set i (f xs[i])) := by
  simp [update, h]

/-- The elements from position `start` up to, not including, `stop`. -/
def slice (xs : Array α) (start stop : Nat) : Except Error (Array α) :=
  if start ≤ stop ∧ stop ≤ xs.size then .ok (xs.extract start stop)
  else .error (.fault (.badSlice start stop xs.size))

theorem slice_of_le {xs : Array α} {start stop : Nat} (h : start ≤ stop) (h' : stop ≤ xs.size) :
    slice xs start stop = .ok (xs.extract start stop) := by
  simp [slice, h, h']

theorem slice_eq_ok {xs ys : Array α} {start stop : Nat} :
    slice xs start stop = .ok ys ↔
      start ≤ stop ∧ stop ≤ xs.size ∧ xs.extract start stop = ys := by
  unfold slice
  split
  case isTrue h => simp only [Except.ok.injEq, h.1, h.2, true_and]
  case isFalse h => exact ⟨nofun, fun h' => absurd ⟨h'.1, h'.2.1⟩ h⟩

/-- A quotient without its remainder. -/
def divide (m n : Nat) : Except Error Nat :=
  if n = 0 then .error (.fault .divisionByZero) else .ok (m / n)

theorem divide_of_pos (m : Nat) {n : Nat} (h : 0 < n) : divide m n = .ok (m / n) := by
  simp [divide, Nat.ne_of_gt h]

/-- A number, if it is one of 64 bits. -/
def fit (n : Nat) : Except Error Nat :=
  if n < sizeLimit then .ok n else .error (.fault .overflow)

theorem fit_of_lt {n : Nat} (h : n < sizeLimit) : fit n = .ok n := by
  simp [fit, h]

theorem fit_eq_ok {n m : Nat} : fit n = .ok m ↔ n < sizeLimit ∧ n = m := by
  unfold fit
  split
  case isTrue h => simp [h]
  case isFalse h => exact ⟨nofun, fun h' => absurd h'.1 h⟩

/-- What becomes of a sum or product that is no size. Plain operators leave it to the build: one with
overflow checks, as a program has by default, fails there, and one without, as a release has, goes on with
what is left of the number in 64 bits. -/
inductive Overflow where
  | checked
  | wrapping
deriving DecidableEq

namespace Overflow

/-- The size that a sum or product comes to. -/
def size (overflow : Overflow) (n : Nat) : Except Error Nat :=
  match overflow with
  | .checked => fit n
  | .wrapping => .ok (n % sizeLimit)

theorem size_of_lt (overflow : Overflow) {n : Nat} (h : n < sizeLimit) :
    overflow.size n = .ok n := by
  cases overflow with
  | checked => exact fit_of_lt h
  | wrapping => rw [size, Nat.mod_eq_of_lt h]

end Overflow

/-- Keeps the elements a test accepts, in order; the test may fail. -/
def keep (test : α → Except ε Bool) : List α → Except ε (List α)
  | [] => .ok []
  | x :: xs => do
    let accepted ← test x
    let rest ← keep test xs
    return if accepted then x :: rest else rest

theorem keep_length_le {test : α → Except ε Bool} {xs ys : List α} (h : keep test xs = .ok ys) :
    ys.length ≤ xs.length := by
  induction xs generalizing ys with
  | nil => simp only [keep, Except.ok.injEq] at h; simp [← h]
  | cons x xs ih =>
    obtain ⟨accepted, _, h⟩ := bind_eq_ok.1 h
    obtain ⟨rest, hrest, h⟩ := bind_eq_ok.1 h
    have := ih hrest
    simp only [pure_eq_ok, Except.ok.injEq] at h
    subst h
    split <;> simp only [List.length_cons] <;> omega

/-- A test that never fails makes `keep` a filter. -/
theorem keep_eq_filter {test : α → Except ε Bool} {p : α → Bool} {xs : List α}
    (h : ∀ x ∈ xs, test x = .ok (p x)) : keep test xs = .ok (xs.filter p) := by
  induction xs with
  | nil => rfl
  | cons x xs ih =>
    simp only [keep, h x (by simp), ok_bind, ih fun y hy => h y (by simp [hy]), pure_eq_ok,
      List.filter_cons]

end Motif
