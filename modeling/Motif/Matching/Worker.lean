import Motif.Matching.Search
import Motif.Table

/-!
A worker searches from one root and collects rows, within a budget that all workers share. It
gives up at once if the budget is spent; else it finds a row, claims one unit for it, keeps it if
the claim succeeds and stops if not. There may be no room for a row that is kept, and then the step
fails. The steps are small enough to be interleaved with those of other workers.
-/

set_option autoImplicit false

namespace Motif.Matching

/-- How many rows may still be kept; without a bound there is nothing to count. -/
structure Budget where
  left? : Option Nat
deriving DecidableEq

namespace Budget

/-- A bound of zero is none. -/
def ofBound (bound : Nat) : Budget := ⟨if bound = 0 then none else some bound⟩

/-- Takes one unit, if one is left. -/
def claim (b : Budget) : Option Budget :=
  match b.left? with
  | none => some b
  | some 0 => none
  | some (n + 1) => some ⟨some n⟩

def isSpent (b : Budget) : Bool := b.left? = some 0

end Budget

inductive Phase where
  | waiting
  | searching
  | holding (row : Array Nat)
  | done
deriving DecidableEq

structure Worker where
  root : Nat
  phase : Phase
  search : Search
  rows : Table Nat

namespace Worker

/-- A worker about to start, with a search that may have been used before. -/
def waiting (columns root : Nat) (search : Search) : Worker :=
  ⟨root, .waiting, search, .empty columns⟩

/-- One step of a worker; also gives the budget after it. -/
def step (memory : Memory) (p : Problem) (budget : Budget) (w : Worker) :
    Except Error (Budget × Worker) :=
  match w.phase with
  | .waiting =>
    if budget.isSpent then .ok (budget, { w with phase := .done })
    else do
      let search ← w.search.restart w.root
      return (budget, { w with phase := .searching, search := search })
  | .searching => do
    match ← w.search.next p with
    | (some row, search) => return (budget, { w with phase := .holding row, search := search })
    | (none, search) => return (budget, { w with phase := .done, search := search })
  | .holding row =>
    match budget.claim with
    | some left => do
      let rows ← w.rows.pushRow memory row
      return (left, { w with phase := .searching, rows := rows })
    | none => .ok (budget, { w with phase := .done })
  | .done => .ok (budget, w)

/-- What is left to do: whether the worker has started, and twice the weight of its search, one
more while it holds a row. -/
def effort (p : Problem) (w : Worker) : Nat × Nat :=
  match w.phase with
  | .waiting => (1, 0)
  | .searching => (0, 2 * w.search.weight p)
  | .holding _ => (0, 2 * w.search.weight p + 1)
  | .done => (0, 0)

theorem effort_lt_of_step {memory : Memory} {p : Problem} {budget budget' : Budget}
    {w w' : Worker} (h : w.step memory p budget = .ok (budget', w')) (hd : w'.phase ≠ .done) :
    Prod.Lex (· < ·) (· < ·) (w'.effort p) (w.effort p) := by
  unfold step at h
  split at h
  · rename_i hp
    split at h
    · simp only [Except.ok.injEq, Prod.mk.injEq] at h
      rw [← h.2] at hd
      exact absurd rfl hd
    · obtain ⟨search, _, h⟩ := bind_eq_ok.1 h
      simp only [pure_eq_ok, Except.ok.injEq, Prod.mk.injEq] at h
      rw [← h.2]
      simp only [effort, hp]
      exact Prod.Lex.left _ _ Nat.zero_lt_one
  · rename_i hp
    obtain ⟨found, hfound, h⟩ := bind_eq_ok.1 h
    obtain ⟨row?, search⟩ := found
    cases row? with
    | none =>
      simp only [pure_eq_ok, Except.ok.injEq, Prod.mk.injEq] at h
      rw [← h.2] at hd
      exact absurd rfl hd
    | some row =>
      simp only [pure_eq_ok, Except.ok.injEq, Prod.mk.injEq] at h
      rw [← h.2]
      simp only [effort, hp]
      have := Search.weight_lt_of_next hfound
      exact Prod.Lex.right _ (by omega)
  · rename_i row hp
    split at h
    · obtain ⟨rows, _, h⟩ := bind_eq_ok.1 h
      simp only [pure_eq_ok, Except.ok.injEq, Prod.mk.injEq] at h
      rw [← h.2]
      simp only [effort, hp]
      exact Prod.Lex.right _ (by omega)
    · simp only [Except.ok.injEq, Prod.mk.injEq] at h
      rw [← h.2] at hd
      exact absurd rfl hd
  · rename_i hp
    simp only [Except.ok.injEq, Prod.mk.injEq] at h
    rw [← h.2] at hd
    exact absurd hp hd

/-- Steps until the worker is done. -/
def run (memory : Memory) (p : Problem) (budget : Budget) (w : Worker) :
    Except Error (Budget × Worker) :=
  match _h : w.step memory p budget with
  | .error e => .error e
  | .ok (budget', w') =>
    if _hd : w'.phase = .done then .ok (budget', w') else run memory p budget' w'
termination_by w.effort p
decreasing_by exact effort_lt_of_step _h _hd

end Worker

end Motif.Matching
