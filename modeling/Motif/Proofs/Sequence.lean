import Mathlib
import Motif.Access

/-!
# Runs of steps that may fail

A traversal whose steps all succeed is the plain traversal, and a fold whose steps keep an
invariant ends in a state that satisfies it. The invariant may speak of the elements already
consumed, so a run can be described by what it has done so far.
-/

set_option autoImplicit false

namespace Motif

variable {α β ε σ : Type}

theorem mapM_eq_map {f : α → Except ε β} {g : α → β} {xs : List α}
    (h : ∀ x ∈ xs, f x = .ok (g x)) : xs.mapM f = .ok (xs.map g) := by
  induction xs with
  | nil => rfl
  | cons x xs ih =>
    have rest := ih fun y hy => h y (List.mem_cons_of_mem _ hy)
    rw [List.mapM_cons, h x List.mem_cons_self, rest]
    rfl

theorem mapM_congr {f g : α → Except ε β} {xs : List α} (h : ∀ x ∈ xs, f x = g x) :
    xs.mapM f = xs.mapM g := by
  induction xs with
  | nil => rfl
  | cons x xs ih =>
    rw [List.mapM_cons, List.mapM_cons, h x List.mem_cons_self,
      ih fun y hy => h y (List.mem_cons_of_mem _ hy)]

/-- A traversal succeeds exactly when every step does. -/
theorem mapM_eq_ok_iff {f : α → Except ε β} {xs : List α} {ys : List β} :
    xs.mapM f = .ok ys ↔ List.Forall₂ (fun x y => f x = .ok y) xs ys := by
  induction xs generalizing ys with
  | nil => cases ys <;> simp
  | cons x xs ih =>
    rw [List.mapM_cons]
    simp only [bind_eq_ok, pure_eq_ok, Except.ok.injEq]
    constructor
    · rintro ⟨y, first, ys, later, rfl⟩
      exact List.Forall₂.cons first (ih.mp later)
    · intro related
      cases related with
      | cons first later => exact ⟨_, first, _, ih.mpr later, rfl⟩

theorem exists_of_mapM_error {f : α → Except ε β} {xs : List α} {e : ε}
    (h : xs.mapM f = .error e) : ∃ x ∈ xs, f x = .error e := by
  induction xs with
  | nil => cases h
  | cons x xs ih =>
    rw [List.mapM_cons] at h
    cases first : f x with
    | error e' =>
      rw [first] at h
      cases h
      exact ⟨x, List.mem_cons_self, first⟩
    | ok y =>
      cases later : xs.mapM f with
      | error e' =>
        rw [first, later] at h
        cases h
        obtain ⟨z, hz, failed⟩ := ih later
        exact ⟨z, List.mem_cons_of_mem x hz, failed⟩
      | ok ys =>
        rw [first, later] at h
        cases h

/-- A fold that picks one of two at every step ends with one of all. -/
theorem foldl_mem {f : α → α → α} (picks : ∀ a b, f a b = a ∨ f a b = b) (xs : List α) (a : α) :
    xs.foldl f a ∈ a :: xs := by
  induction xs generalizing a with
  | nil => exact List.mem_cons_self
  | cons x xs ih =>
    rw [List.foldl_cons]
    rcases List.mem_cons.mp (ih (f a x)) with picked | later
    · rw [picked]
      rcases picks a x with left | right
      · rw [left]
        exact List.mem_cons_self
      · rw [right]
        exact List.mem_cons_of_mem a List.mem_cons_self
    · exact List.mem_cons_of_mem a (List.mem_cons_of_mem x later)

theorem foldlM_congr {f g : σ → α → Except ε σ} {xs : List α}
    (h : ∀ x ∈ xs, ∀ s, f s x = g s x) (s : σ) : xs.foldlM f s = xs.foldlM g s := by
  induction xs generalizing s with
  | nil => rfl
  | cons x xs ih =>
    rw [List.foldlM_cons, List.foldlM_cons, h x List.mem_cons_self]
    congr 1
    funext t
    exact ih (fun y hy => h y (List.mem_cons_of_mem _ hy)) t

/-- A fold over the parts of a list is a fold of folds. -/
theorem foldlM_flatMap {f : α → List β} {g : σ → β → Except ε σ} (xs : List α) (s : σ) :
    (xs.flatMap f).foldlM g s = xs.foldlM (fun s x => (f x).foldlM g s) s := by
  induction xs generalizing s with
  | nil => rfl
  | cons x xs ih =>
    rw [List.flatMap_cons, List.foldlM_append, List.foldlM_cons]
    congr 1
    funext t
    exact ih t

/-- What a fold has consumed is part of its invariant: each step extends it by one element. -/
theorem foldlM_invariant (f : σ → α → Except ε σ) (xs : List α)
    (Holds : List α → σ → Prop)
    (step : ∀ consumed x s, consumed ++ [x] <+: xs → Holds consumed s →
      ∃ t, f s x = .ok t ∧ Holds (consumed ++ [x]) t)
    {s : σ} (start : Holds [] s) : ∃ t, xs.foldlM f s = .ok t ∧ Holds xs t := by
  suffices run : ∀ todo consumed s, consumed ++ todo = xs → Holds consumed s →
      ∃ t, todo.foldlM f s = .ok t ∧ Holds xs t from run xs [] s rfl start
  intro todo
  induction todo with
  | nil =>
    intro consumed s whole holds
    rw [List.append_nil] at whole
    exact ⟨s, rfl, whole ▸ holds⟩
  | cons x todo ih =>
    intro consumed s whole holds
    have whole' : consumed ++ [x] ++ todo = xs := by rw [List.append_assoc]; exact whole
    obtain ⟨t, ht, holds'⟩ := step consumed x s ⟨todo, whole'⟩ holds
    obtain ⟨r, hr, holds''⟩ := ih (consumed ++ [x]) t whole' holds'
    refine ⟨r, ?_, holds''⟩
    rw [List.foldlM_cons, ht]
    exact hr

/-- Writes at distinct positions all stay: what was written at a position stands there at last,
and everything else is as it was. -/
theorem writes_spec (xs : Array β) {pairs : List (Nat × β)} (distinct : (pairs.map (·.1)).Nodup)
    (inside : ∀ p ∈ pairs, p.1 < xs.size) :
    ∃ ys, pairs.foldlM (fun ys p => write ys p.1 p.2) xs = .ok ys ∧ ys.size = xs.size ∧
      (∀ p ∈ pairs, ys[p.1]? = some p.2) ∧
      ∀ i, i ∉ pairs.map (·.1) → ys[i]? = xs[i]? := by
  obtain ⟨ys, run, holds⟩ := foldlM_invariant (fun ys p => write ys p.1 p.2) pairs
    (fun consumed ys => ys.size = xs.size ∧ (∀ p ∈ consumed, ys[p.1]? = some p.2) ∧
      ∀ i, i ∉ consumed.map (·.1) → ys[i]? = xs[i]?)
    (fun consumed p ys front holds => by
      obtain ⟨size, written, others⟩ := holds
      have hp : p.1 < ys.size := by
        rw [size]
        exact inside p (front.mem (List.mem_append_right _ List.mem_cons_self))
      have fresh : p.1 ∉ consumed.map (·.1) := by
        have := distinct.sublist (front.sublist.map _)
        rw [List.map_append, List.map_singleton, List.nodup_append] at this
        exact fun h => this.2.2 p.1 h p.1 List.mem_cons_self rfl
      refine ⟨_, write_of_lt p.2 hp, by rw [Array.size_set, size], ?_, ?_⟩
      · intro q hq
        rcases List.mem_append.mp hq with hq | hq
        · have : p.1 ≠ q.1 := fun h => fresh (h ▸ List.mem_map_of_mem hq)
          rw [Array.getElem?_set_ne hp this]
          exact written q hq
        · rw [List.mem_singleton.mp hq, Array.getElem?_set_self hp]
      · intro i hi
        rw [List.map_append, List.mem_append, not_or] at hi
        have : p.1 ≠ i := fun h => hi.2 (by simp [h])
        rw [Array.getElem?_set_ne hp this]
        exact others i hi.1)
    (s := xs) ⟨rfl, by simp, fun _ _ => rfl⟩
  exact ⟨ys, run, holds⟩

/-- Adding one at each position of a list adds to every entry how often the list names it. -/
theorem increments_spec (xs : Array Nat) {positions : List Nat}
    (inside : ∀ i ∈ positions, i < xs.size) :
    ∃ ys, positions.foldlM (fun ys i => update ys i (· + 1)) xs = .ok ys ∧ ys.size = xs.size ∧
      ∀ i, ys[i]? = xs[i]?.map (· + positions.count i) := by
  obtain ⟨ys, run, holds⟩ := foldlM_invariant (fun ys i => update ys i (· + 1)) positions
    (fun consumed ys => ys.size = xs.size ∧ ∀ i, ys[i]? = xs[i]?.map (· + consumed.count i))
    (fun consumed i ys front holds => by
      obtain ⟨size, counted⟩ := holds
      have hi : i < ys.size := by
        rw [size]
        exact inside i (front.mem (List.mem_append_right _ List.mem_cons_self))
      refine ⟨_, update_of_lt _ hi, by rw [Array.size_set, size], fun k => ?_⟩
      rw [List.count_append, Array.getElem?_set]
      split
      case isTrue here =>
        subst here
        have entry := counted i
        rw [Array.getElem?_eq_getElem hi, Array.getElem?_eq_getElem (size ▸ hi)] at entry
        rw [Array.getElem?_eq_getElem (size ▸ hi), Option.map_some, List.count_singleton_self,
          Option.some.inj entry]
        rfl
      case isFalse elsewhere =>
        have : [i].count k = 0 := List.count_eq_zero.mpr (by simpa using Ne.symm elsewhere)
        rw [counted k, this]
        rfl)
    (s := xs) ⟨rfl, by simp⟩
  exact ⟨ys, run, holds⟩

end Motif
