import Motif.Matching.Worker
import Motif.Proofs.Matching.Search
import Motif.Proofs.Table

/-!
# A worker keeps what the budget allows

A worker finds the rows below its root one after the other and keeps as many as are left in the
budget, so it may stop in the middle of a search; the next one can start over from there.
-/

set_option autoImplicit false

namespace Motif.Matching

namespace Budget

/-- As much of a list as may still be kept. -/
def limit {α : Type} (b : Budget) (xs : List α) : List α :=
  match b.left? with
  | none => xs
  | some n => xs.take n

/-- The budget after so many rows. -/
def spend (b : Budget) (n : Nat) : Budget := ⟨b.left?.map (· - n)⟩

variable {α : Type} {b : Budget}

@[simp] theorem limit_nil : b.limit ([] : List α) = [] := by
  rcases b with ⟨_ | n⟩ <;> simp [limit]

@[simp] theorem spend_zero : b.spend 0 = b := by
  rcases b with ⟨_ | n⟩ <;> simp [spend]

theorem spend_spend (m n : Nat) : (b.spend m).spend n = b.spend (m + n) := by
  rcases b with ⟨_ | k⟩ <;> simp [spend, Nat.sub_sub]

/-- A list that is limited in two parts. -/
theorem limit_append (xs ys : List α) :
    b.limit (xs ++ ys) = b.limit xs ++ (b.spend (b.limit xs).length).limit ys := by
  rcases b with ⟨_ | n⟩
  · rfl
  · simp only [limit, spend, Option.map_some, List.take_append, List.length_take]
    congr 2
    omega

theorem limit_of_isSpent (h : b.isSpent = true) (xs : List α) : b.limit xs = [] := by
  have : b.left? = some 0 := by simpa [isSpent] using h
  simp [limit, this]

theorem isSpent_of_claim (h : b.claim = none) : b.isSpent = true := by
  rcases b with ⟨_ | _ | n⟩
  · cases h
  · rfl
  · cases h

theorem claim_eq_none (h : b.isSpent = true) : b.claim = none := by
  rcases b with ⟨_ | _ | n⟩
  · cases h
  · rfl
  · cases h

theorem limit_sublist (xs : List α) : (b.limit xs).Sublist xs := by
  rcases b with ⟨_ | n⟩
  · exact List.Sublist.refl xs
  · exact List.take_sublist n xs

theorem limit_of_claim_eq_none (h : b.claim = none) (xs : List α) : b.limit xs = [] :=
  limit_of_isSpent (isSpent_of_claim h) xs

theorem isSpent_spend_iff {bound n : Nat} :
    ((ofBound bound).spend n).isSpent = true ↔ 0 < bound ∧ bound ≤ n := by
  rcases bound with _ | bound
  · simp [ofBound, spend, isSpent]
  · simp [ofBound, spend, isSpent, Nat.sub_eq_zero_iff_le]

theorem lt_of_claim {bound n : Nat} {b' : Budget} (some : 0 < bound)
    (h : ((ofBound bound).spend n).claim = Option.some b') : n < bound := by
  by_contra used
  rw [claim_eq_none (isSpent_spend_iff.mpr ⟨some, Nat.le_of_not_lt used⟩)] at h
  cases h

theorem spend_of_claim {b' : Budget} (h : b.claim = some b') : b' = b.spend 1 := by
  rcases b with ⟨_ | _ | n⟩
  · cases h
    rfl
  · cases h
  · cases h
    rfl

theorem limit_of_claim {b' : Budget} (h : b.claim = some b') (x : α) (xs : List α) :
    b.limit (x :: xs) = x :: b'.limit xs := by
  rcases b with ⟨_ | _ | n⟩
  · cases h
    rfl
  · cases h
  · cases h
    rfl

end Budget

namespace Worker

variable {memory : Memory} {p : Problem} {b b' : Budget} {w w' : Worker} {s : Search}
  {row : Array Nat}

theorem step_spent (phase : w.phase = .waiting) (spent : b.isSpent = true) :
    w.step memory p b = .ok (b, { w with phase := .done }) := by
  simp [step, phase, spent]

theorem step_restart (phase : w.phase = .waiting) (unspent : ¬ b.isSpent = true)
    (restarted : w.search.restart w.root = .ok s) :
    w.step memory p b = .ok (b, { w with phase := .searching, search := s }) := by
  simp [step, phase, unspent, restarted]

theorem step_next_none (phase : w.phase = .searching) (found : w.search.next p = .ok (none, s)) :
    w.step memory p b = .ok (b, { w with phase := .done, search := s }) := by
  simp [step, phase, found]

theorem step_next_some (phase : w.phase = .searching)
    (found : w.search.next p = .ok (some row, s)) :
    w.step memory p b = .ok (b, { w with phase := .holding row, search := s }) := by
  simp [step, phase, found]

theorem step_unclaimed (phase : w.phase = .holding row) (claimed : b.claim = none) :
    w.step memory p b = .ok (b, { w with phase := .done }) := by
  simp [step, phase, claimed]

theorem step_claimed (phase : w.phase = .holding row) (claimed : b.claim = some b')
    {kept : List (Array Nat)} (rows : w.rows = .ofRows p.order.size kept)
    (size : row.size = p.order.size) :
    w.step .unlimited p b =
      .ok (b', { w with phase := .searching, rows := .ofRows p.order.size (kept ++ [row]) }) := by
  simp [step, phase, claimed, rows, Table.pushRow_ofRows kept size]

theorem step_done (phase : w.phase = .done) : w.step memory p b = .ok (b, w) := by
  simp [step, phase]

theorem run_of_step_done (h : w.step memory p b = .ok (b', w')) (done : w'.phase = .done) :
    Worker.run memory p b w = .ok (b', w') := by
  rw [Worker.run]
  split
  case h_1 e failed =>
    rw [h] at failed
    cases failed
  case h_2 b'' w'' stepped =>
    rw [h, Except.ok.injEq, Prod.mk.injEq] at stepped
    obtain ⟨rfl, rfl⟩ := stepped
    rw [dif_pos done]

theorem run_of_step (h : w.step memory p b = .ok (b', w')) (going : w'.phase ≠ .done) :
    Worker.run memory p b w = Worker.run memory p b' w' := by
  rw [Worker.run]
  split
  case h_1 e failed =>
    rw [h] at failed
    cases failed
  case h_2 b'' w'' stepped =>
    rw [h, Except.ok.injEq, Prod.mk.injEq] at stepped
    obtain ⟨rfl, rfl⟩ := stepped
    rw [dif_neg going]

section Run

variable {pattern : Graph} (target : p.target.WellFormed) (visits : p.order.Visits pattern)
include target visits

/-- A worker that searches keeps what remains, as far as the budget goes. -/
theorem run_searching (phase : w.phase = .searching) (coherent : w.search.Coherent p)
    {kept : List (Array Nat)} (rows : w.rows = .ofRows p.order.size kept) :
    ∃ w', Worker.run .unlimited p b w = .ok (b.spend (b.limit (w.search.remaining p)).length, w') ∧
      w'.search.Coherent p ∧ w'.rows = .ofRows p.order.size
        (kept ++ (b.limit (w.search.remaining p)).map (arrange p.order.order)) := by
  generalize todo : w.search.remaining p = images
  induction images generalizing w b kept with
  | nil =>
    rcases w.search.next_spec target visits coherent with
      ⟨-, s, found, coherent'⟩ | ⟨_, _, some, -⟩
    · refine ⟨{ w with phase := .done, search := s }, ?_, coherent', by simpa using rows⟩
      rw [run_of_step_done (step_next_none phase found) rfl, Budget.limit_nil, List.length_nil,
        Budget.spend_zero]
    · rw [todo] at some
      cases some
  | cons image images ih =>
    rcases w.search.next_spec target visits coherent with
      ⟨none, -⟩ | ⟨image', s, some, coherent', found⟩
    · rw [todo] at none
      cases none
    · rw [todo, List.cons.injEq] at some
      obtain ⟨rfl, rest⟩ := some
      rw [run_of_step (step_next_some phase found) nofun]
      -- the row has been found; whether it is kept is up to the budget
      cases claimed : b.claim with
      | none =>
        rw [Budget.limit_of_claim_eq_none claimed]
        refine ⟨{ w with phase := .done, search := s }, ?_, coherent', by simpa using rows⟩
        rw [run_of_step_done (step_unclaimed rfl claimed) rfl, List.length_nil, Budget.spend_zero]
      | some left =>
        have limited := Budget.limit_of_claim claimed image images
        obtain rfl := Budget.spend_of_claim claimed
        have stepped := step_claimed (p := p) (w := { w with
          phase := .holding (arrange p.order.order image), search := s }) rfl claimed rows
          (size_arrange _ _)
        obtain ⟨w', run, coherent'', rows'⟩ := ih (b := b.spend 1) (w := { w with
            phase := .searching, search := s,
            rows := .ofRows p.order.size (kept ++ [arrange p.order.order image]) })
          rfl coherent' rfl rest.symm
        refine ⟨w', ?_, coherent'', ?_⟩
        · rw [run_of_step stepped nofun, run, limited, Budget.spend_spend, List.length_cons,
            Nat.add_comm]
        · rw [rows', limited, List.map_cons, List.append_assoc]
          rfl

/-- A worker that starts from a root keeps the rows below it, as far as the budget goes. -/
theorem run_waiting {s : Search} (coherent : s.Coherent p) {root : Nat}
    (inside : root < p.target.vertexCount) (room : 0 < p.order.size) :
    ∃ w', Worker.run .unlimited p b (.waiting p.order.size root s) =
        .ok (b.spend (b.limit (extensions p (p.order.size - 1) [root])).length, w') ∧
      w'.search.Coherent p ∧ w'.rows = .ofRows p.order.size
        ((b.limit (extensions p (p.order.size - 1) [root])).map (arrange p.order.order)) := by
  by_cases spent : b.isSpent = true
  · rw [Budget.limit_of_isSpent spent]
    refine ⟨{ Worker.waiting p.order.size root s with phase := .done }, ?_, coherent, rfl⟩
    rw [run_of_step_done (step_spent rfl spent) rfl, List.length_nil, Budget.spend_zero]
  · obtain ⟨s', restarted, coherent', remaining⟩ := Search.restart_spec coherent inside room
    obtain ⟨w', run, coherent'', rows⟩ := run_searching target visits (b := b)
      (w := { Worker.waiting p.order.size root s with phase := .searching, search := s' })
      rfl coherent' (Table.ofRows_nil p.order.size).symm
    rw [remaining] at run rows
    exact ⟨w', (run_of_step (step_restart rfl spent restarted) nofun).trans run, coherent'', rows⟩

/-- A worker in the middle of its work, its rows as long as the pattern asks for. -/
structure Sound (p : Problem) (w : Worker) : Prop where
  inside : w.root < p.target.vertexCount
  coherent : w.search.Coherent p
  held : ∀ row, w.phase = .holding row → row.size = p.order.size
  rows : ∃ kept, w.rows = .ofRows p.order.size kept

omit target visits in
theorem sound_waiting {s : Search} (coherent : s.Coherent p) {root : Nat}
    (inside : root < p.target.vertexCount) : (Worker.waiting p.order.size root s).Sound p where
  inside := inside
  coherent := coherent
  held := nofun
  rows := ⟨[], (Table.ofRows_nil _).symm⟩

/-- With memory enough no step fails, whatever the others have left of the budget. -/
theorem Sound.step (h : w.Sound p) (room : 0 < p.order.size) (b : Budget) :
    ∃ b' w', w.step .unlimited p b = .ok (b', w') ∧ w'.Sound p := by
  obtain ⟨inside, coherent, held, kept, rows⟩ := h
  cases phase : w.phase with
  | waiting =>
    by_cases spent : b.isSpent = true
    · exact ⟨b, _, step_spent phase spent, inside, coherent, nofun, kept, rows⟩
    · obtain ⟨s, restarted, coherent', -⟩ := Search.restart_spec coherent inside room
      exact ⟨b, _, step_restart phase spent restarted, inside, coherent', nofun, kept, rows⟩
  | searching =>
    rcases w.search.next_spec target visits coherent with
      ⟨-, s, found, coherent'⟩ | ⟨image, s, -, coherent', found⟩
    · exact ⟨b, _, step_next_none phase found, inside, coherent', nofun, kept, rows⟩
    · refine ⟨b, _, step_next_some phase found, inside, coherent', ?_, kept, rows⟩
      rintro _ ⟨⟩
      exact size_arrange _ _
  | holding row =>
    cases claimed : b.claim with
    | none => exact ⟨b, _, step_unclaimed phase claimed, inside, coherent, nofun, kept, rows⟩
    | some left =>
      exact ⟨left, _, step_claimed phase claimed rows (held row phase), inside, coherent, nofun, _,
        rfl⟩
  | done => exact ⟨b, w, step_done phase, inside, coherent, held, kept, rows⟩

end Run

end Worker

end Motif.Matching
