import Motif.Proofs.Matching.Restart

/-!
# Workers side by side

Workers that share a budget take their steps in any order. What is left of the budget and the rows
kept so far make up the bound after every step, and a worker that stops with rows still to come
leaves a spent budget behind. So when all are done, either the bound is used up or every row was
kept; without a bound, every row was.
-/

set_option autoImplicit false

namespace Motif.Matching

/-- Workers and what is left of their budget. -/
structure Pool where
  budget : Budget
  workers : List Worker

namespace Pool

/-- One waiting worker for each root, none of which has searched yet. -/
def start (p : Problem) (columns bound : Nat) (roots : List Nat) : Pool :=
  ⟨.ofBound bound, roots.map fun root => .waiting columns root (.start p.target)⟩

/-- One worker takes a step. A worker may start with the search of one that is done. -/
inductive Step (memory : Memory) (p : Problem) : Pool → Pool → Prop
  | work {budget budget' : Budget} {before after : List Worker} {w w' : Worker} :
      w.phase ≠ .done → w.step memory p budget = .ok (budget', w') →
      Step memory p ⟨budget, before ++ w :: after⟩ ⟨budget', before ++ w' :: after⟩
  | reuse {budget budget' : Budget} {before after : List Worker} {w w' used : Worker} :
      w.phase = .waiting → used ∈ before ++ after → used.phase = .done →
      { w with search := used.search }.step memory p budget = .ok (budget', w') →
      Step memory p ⟨budget, before ++ w :: after⟩ ⟨budget', before ++ w' :: after⟩

def Complete (q : Pool) : Prop := ∀ w ∈ q.workers, w.phase = .done

/-- The rows of all workers. -/
def recorded (q : Pool) : List (Array Nat) := q.workers.flatMap fun w => w.rows.rows

end Pool

/-- The rows below a root, in the order of a search. -/
def rowsBelow (p : Problem) (root : Nat) : List (Array Nat) :=
  (extensions p (p.order.size - 1) [root]).map (arrange p.order.order)

variable {p : Problem}

theorem size_of_mem_rowsBelow {root : Nat} : ∀ row ∈ rowsBelow p root, row.size = p.order.size :=
  size_of_mem_map_arrange

theorem flatMap_rowsBelow (room : 0 < p.order.size) :
    (candidateList p []).flatMap (rowsBelow p) =
      (extensions p p.order.size []).map (arrange p.order.order) := by
  rw [← below_candidateList room, below, List.map_flatMap]
  rfl

/-- What the rows kept and those ahead have to do with all rows below the root. A worker that is done
has kept all of them, unless nothing is left of the budget. -/
def Phase.Accounts (b : Budget) (kept ahead all : List (Array Nat)) : Phase → Prop
  | .waiting => kept = []
  | .searching => kept ++ ahead = all
  | .holding row => kept ++ row :: ahead = all
  | .done => kept <+: all ∧ (b.isSpent = true ∨ kept = all)

namespace Worker

/-- The rows that a worker has still to find. -/
def ahead (p : Problem) (w : Worker) : List (Array Nat) :=
  (w.search.remaining p).map (arrange p.order.order)

/-- At least the number of steps until a worker is done. -/
def stepsLeft (p : Problem) (w : Worker) : Nat :=
  match w.phase with
  | .waiting => 2 * (rowsBelow p w.root).length + 2
  | .searching => 2 * (w.ahead p).length + 1
  | .holding _ => 2 * (w.ahead p).length + 2
  | .done => 0

/-- A worker in the middle of its work. -/
structure Accounts (p : Problem) (b : Budget) (w : Worker) : Prop where
  inside : w.root < p.target.vertexCount
  coherent : w.search.Coherent p
  table : w.rows = .ofRows p.order.size w.rows.rows
  phase : w.phase.Accounts b w.rows.rows (w.ahead p) (rowsBelow p w.root)

/-- What a step does to a worker and the budget: a row that is kept is paid for. -/
structure Advances (p : Problem) (b : Budget) (w : Worker) (b' : Budget) (w' : Worker) : Prop where
  accounts : w'.Accounts p b'
  root : w'.root = w.root
  pays : b' = b ∧ w'.rows.rows.length = w.rows.rows.length ∨
    b.claim = some b' ∧ w'.rows.rows.length = w.rows.rows.length + 1
  closer : w'.stepsLeft p < w.stepsLeft p

variable {b b' : Budget} {w w' : Worker}

theorem Accounts.account (h : w.Accounts p b) {phase : Phase} (hphase : w.phase = phase) :
    phase.Accounts b w.rows.rows (w.ahead p) (rowsBelow p w.root) :=
  hphase ▸ h.phase

/-- What others take from the budget changes no account. -/
theorem Accounts.mono (h : w.Accounts p b) (spent : b.isSpent = true → b'.isSpent = true) :
    w.Accounts p b' := by
  refine ⟨h.inside, h.coherent, h.table, ?_⟩
  cases phase : w.phase with
  | waiting => exact h.account phase
  | searching => exact h.account phase
  | holding row => exact h.account phase
  | done =>
    obtain ⟨front, rest⟩ := h.account phase
    exact ⟨front, rest.imp_left spent⟩

theorem Advances.spent (h : Advances p b w b' w') (spent : b.isSpent = true) :
    b'.isSpent = true := by
  rcases h.pays with ⟨rfl, -⟩ | ⟨claimed, -⟩
  · exact spent
  · rw [Budget.claim_eq_none spent] at claimed
    cases claimed

theorem rows_waiting (columns root : Nat) (s : Search) (some : 0 < columns) :
    (Worker.waiting columns root s).rows.rows = [] := by
  rw [Worker.waiting, ← Table.ofRows_nil]
  exact Table.rows_ofRows (by simp) some

/-- At any time, what a worker has kept are the first rows below its root. -/
theorem Accounts.front (h : w.Accounts p b) : w.rows.rows <+: rowsBelow p w.root := by
  cases phase : w.phase with
  | waiting =>
    have none : w.rows.rows = [] := h.account phase
    exact none ▸ List.nil_prefix
  | searching => exact ⟨_, h.account phase⟩
  | holding row => exact ⟨_, h.account phase⟩
  | done => exact (h.account phase).1

theorem Accounts.size_rows (h : w.Accounts p b) :
    w.rows.data.size = w.rows.rows.length * p.order.size := by
  conv_lhs => rw [h.table]
  exact Table.size_ofRows fun row listed => size_of_mem_rowsBelow row (h.front.subset listed)

section Steps

variable {pattern : Graph} (room : 0 < p.order.size)
include room

theorem accounts_waiting {root : Nat} (inside : root < p.target.vertexCount) :
    (Worker.waiting p.order.size root (.start p.target)).Accounts p b := by
  have none := rows_waiting p.order.size root (.start p.target) room
  refine ⟨inside, Search.coherent_start, ?_, none⟩
  rw [none, Table.ofRows_nil]
  rfl

theorem Accounts.step_waiting (h : w.Accounts p b) (phase : w.phase = .waiting) :
    ∃ b' w', w.step .unlimited p b = .ok (b', w') ∧ Advances p b w b' w' := by
  have none : w.rows.rows = [] := h.account phase
  by_cases spent : b.isSpent = true
  · refine ⟨b, { w with phase := .done }, step_spent phase spent,
      ⟨h.inside, h.coherent, h.table, ?_, .inl spent⟩, rfl, .inl ⟨rfl, rfl⟩, ?_⟩
    · exact none ▸ List.nil_prefix
    · simp [stepsLeft, phase]
  · obtain ⟨s, restarted, coherent, remaining⟩ := Search.restart_spec h.coherent h.inside room
    have all : ahead p { w with phase := .searching, search := s } = rowsBelow p w.root := by
      rw [ahead, remaining, rowsBelow]
    refine ⟨b, { w with phase := .searching, search := s }, step_restart phase spent restarted,
      ⟨h.inside, coherent, h.table, ?_⟩, rfl, .inl ⟨rfl, rfl⟩, ?_⟩
    · change w.rows.rows ++ ahead p { w with phase := .searching, search := s } = _
      rw [none, all, List.nil_append]
    · simp only [stepsLeft, phase, all]
      omega

omit room in
theorem Accounts.step_searching (target : p.target.WellFormed) (visits : p.order.Visits pattern)
    (h : w.Accounts p b) (phase : w.phase = .searching) :
    ∃ b' w', w.step .unlimited p b = .ok (b', w') ∧ Advances p b w b' w' := by
  have split : w.rows.rows ++ w.ahead p = rowsBelow p w.root := h.account phase
  rcases w.search.next_spec target visits h.coherent with
    ⟨none, s, found, coherent⟩ | ⟨image, s, some, coherent, found⟩
  · have all : w.rows.rows = rowsBelow p w.root := by
      rw [← split, ahead, none, List.map_nil, List.append_nil]
    refine ⟨b, { w with phase := .done, search := s }, step_next_none phase found,
      ⟨h.inside, coherent, h.table, ?_, .inr all⟩, rfl, .inl ⟨rfl, rfl⟩, ?_⟩
    · exact all ▸ List.prefix_rfl
    · simp [stepsLeft, phase]
  · have first : w.ahead p = arrange p.order.order image ::
        ahead p { w with phase := .holding (arrange p.order.order image), search := s } := by
      rw [ahead, some, List.map_cons]
      rfl
    refine ⟨b, { w with phase := .holding (arrange p.order.order image), search := s },
      step_next_some phase found, ⟨h.inside, coherent, h.table, ?_⟩, rfl, .inl ⟨rfl, rfl⟩, ?_⟩
    · rw [first] at split
      exact split
    · simp only [stepsLeft, phase, first, List.length_cons]
      omega

theorem Accounts.step_holding (h : w.Accounts p b) {row : Array Nat}
    (phase : w.phase = .holding row) :
    ∃ b' w', w.step .unlimited p b = .ok (b', w') ∧ Advances p b w b' w' := by
  have split : w.rows.rows ++ row :: w.ahead p = rowsBelow p w.root := h.account phase
  cases claimed : b.claim with
  | none =>
    refine ⟨b, { w with phase := .done }, step_unclaimed phase claimed,
      ⟨h.inside, h.coherent, h.table, ⟨_, split⟩, .inl (Budget.isSpent_of_claim claimed)⟩, rfl,
      .inl ⟨rfl, rfl⟩, ?_⟩
    simp [stepsLeft, phase]
  | some b' =>
    have split' : (w.rows.rows ++ [row]) ++ w.ahead p = rowsBelow p w.root := by
      rw [List.append_assoc, ← split]
      rfl
    have sizes : ∀ r ∈ w.rows.rows ++ [row], r.size = p.order.size := fun r hr =>
      size_of_mem_rowsBelow r (split' ▸ List.mem_append_left _ hr)
    have rows := Table.rows_ofRows sizes room
    refine ⟨b', { w with
        phase := .searching, rows := .ofRows p.order.size (w.rows.rows ++ [row]) },
      step_claimed phase claimed h.table (sizes row (by simp)),
      ⟨h.inside, h.coherent, ?_, ?_⟩, rfl, .inr ⟨claimed, ?_⟩, ?_⟩
    · rw [rows]
    · rw [rows]
      exact split'
    · rw [rows, List.length_append, List.length_singleton]
    · simp only [stepsLeft, phase, ahead]
      omega

/-- A worker that is not done yet takes its step, whatever the others have left. -/
theorem Accounts.step (target : p.target.WellFormed) (visits : p.order.Visits pattern)
    (h : w.Accounts p b) (going : w.phase ≠ .done) :
    ∃ b' w', w.step .unlimited p b = .ok (b', w') ∧ Advances p b w b' w' := by
  cases phase : w.phase with
  | waiting => exact h.step_waiting room phase
  | searching => exact h.step_searching target visits phase
  | holding row => exact h.step_holding room phase
  | done => exact absurd phase going

end Steps

end Worker

namespace Pool

/-- At least the number of steps until all workers are done. -/
def stepsLeft (p : Problem) (q : Pool) : Nat := (q.workers.map (Worker.stepsLeft p)).sum

/-- Every row that was kept has been paid for, and the bound was not overdrawn. -/
structure Accounts (p : Problem) (bound : Nat) (roots : List Nat) (q : Pool) : Prop where
  budget : q.budget = (Budget.ofBound bound).spend q.recorded.length
  within : 0 < bound → q.recorded.length ≤ bound
  workers : ∀ w ∈ q.workers, w.Accounts p q.budget
  roots : q.workers.map Worker.root = roots

variable {memory : Memory} {bound : Nat} {roots : List Nat} {q q' : Pool}

/-- Whatever memory a step has, it goes where it would go with no limit. -/
theorem Step.unlimited (step : Step memory p q q') : Step .unlimited p q q' := by
  cases step with
  | work going stepped => exact .work going ((Worker.asks_step p _ _).unlimited_of_ok stepped)
  | reuse phase hused done stepped =>
    exact .reuse phase hused done ((Worker.asks_step p _ _).unlimited_of_ok stepped)

/-- Exchanging a worker for one that has advanced. -/
theorem Accounts.advance {budget budget' : Budget} {before after : List Worker} {w w' : Worker}
    (h : Accounts p bound roots ⟨budget, before ++ w :: after⟩)
    (advances : Worker.Advances p budget w budget' w') :
    Accounts p bound roots ⟨budget', before ++ w' :: after⟩ ∧
      stepsLeft p ⟨budget', before ++ w' :: after⟩ <
        stepsLeft p ⟨budget, before ++ w :: after⟩ := by
  have paid : budget = _ := h.budget
  have within := h.within
  simp only [recorded, List.flatMap_append, List.flatMap_cons, List.length_append] at paid within
  refine ⟨⟨?_, ?_, ?_, ?_⟩, ?_⟩
  · simp only [recorded, List.flatMap_append, List.flatMap_cons, List.length_append]
    rcases advances.pays with ⟨rfl, same⟩ | ⟨claimed, more⟩
    · rw [same]
      exact paid
    · rw [Budget.spend_of_claim claimed, paid, Budget.spend_spend, more]
      congr 1
      omega
  · intro some
    simp only [recorded, List.flatMap_append, List.flatMap_cons, List.length_append]
    rcases advances.pays with ⟨-, same⟩ | ⟨claimed, more⟩
    · rw [same]
      exact within some
    · have left := Budget.lt_of_claim some (paid ▸ claimed)
      omega
  · intro u hu
    rcases List.mem_append.mp hu with hu | hu
    · exact (h.workers u (List.mem_append_left _ hu)).mono advances.spent
    · rcases List.mem_cons.mp hu with rfl | hu
      · exact advances.accounts
      · exact (h.workers u (by simp [hu])).mono advances.spent
  · have same := h.roots
    simp only [List.map_append, List.map_cons, advances.root] at same ⊢
    exact same
  · have closer := advances.closer
    simp only [stepsLeft, List.map_append, List.map_cons, List.sum_append, List.sum_cons]
    omega

section Steps

variable {pattern : Graph} (target : p.target.WellFormed) (visits : p.order.Visits pattern)
  (room : 0 < p.order.size)

include room in
theorem accounts_start (bound : Nat) (roots : List Nat)
    (inside : ∀ root ∈ roots, root < p.target.vertexCount) :
    Accounts p bound roots (start p p.order.size bound roots) := by
  have none : (start p p.order.size bound roots).recorded = [] := by
    rw [recorded, List.flatMap_eq_nil_iff]
    intro w hw
    obtain ⟨root, -, rfl⟩ := List.mem_map.mp hw
    exact Worker.rows_waiting _ _ _ room
  refine ⟨?_, ?_, ?_, ?_⟩
  · rw [none, List.length_nil, Budget.spend_zero]
    rfl
  · rw [none]
    exact fun _ => Nat.zero_le bound
  · intro w hw
    obtain ⟨root, hroot, rfl⟩ := List.mem_map.mp hw
    exact Worker.accounts_waiting room (inside root hroot)
  · rw [start, List.map_map]
    exact List.map_id _

include target visits room

/-- A step keeps the accounts, and there are fewer steps to come. -/
theorem Accounts.step (h : q.Accounts p bound roots) (step : Step memory p q q') :
    q'.Accounts p bound roots ∧ q'.stepsLeft p < q.stepsLeft p := by
  cases step.unlimited with
  | @work budget budget' before after w w' going stepped =>
    obtain ⟨b'', w'', stepped', advances⟩ :=
      (h.workers w (by simp)).step room target visits going
    rw [stepped, Except.ok.injEq, Prod.mk.injEq] at stepped'
    obtain ⟨rfl, rfl⟩ := stepped'
    exact h.advance advances
  | @reuse budget budget' before after w w' used phase hused _ stepped =>
    -- a search that was used before is as good as the own one, as the worker has not started yet
    have taken : Worker.Accounts p budget { w with search := used.search } := by
      have account := h.workers w (by simp)
      refine ⟨account.inside, (h.workers used ?_).coherent, account.table, ?_⟩
      · rcases List.mem_append.mp hused with hused | hused <;> simp [hused]
      · rw [phase]
        exact account.account phase
    obtain ⟨b'', w'', stepped', advances⟩ := taken.step_waiting room phase
    rw [stepped, Except.ok.injEq, Prod.mk.injEq] at stepped'
    obtain ⟨rfl, rfl⟩ := stepped'
    refine h.advance ⟨advances.accounts, advances.root, advances.pays, ?_⟩
    have closer := advances.closer
    simp only [Worker.stepsLeft, phase] at closer ⊢
    exact closer

theorem Accounts.run (h : q.Accounts p bound roots)
    (run : Relation.ReflTransGen (Step memory p) q q') : q'.Accounts p bound roots := by
  induction run with
  | refl => exact h
  | tail _ step ih => exact (ih.step target visits room step).1

/-- No run is endless. -/
theorem Accounts.acc (h : q.Accounts p bound roots) (memory : Memory) :
    Acc (fun later earlier => Step memory p earlier later) q := by
  induction steps : q.stepsLeft p using Nat.strong_induction_on generalizing q with
  | _ steps ih =>
    refine .intro q fun q' step => ?_
    obtain ⟨accounts, closer⟩ := h.step target visits room step
    exact ih _ (steps ▸ closer) accounts rfl

end Steps

theorem Accounts.recorded_sublist (h : q.Accounts p bound roots) :
    q.recorded.Sublist (roots.flatMap (rowsBelow p)) := by
  rw [← h.roots, List.flatMap_map]
  exact List.Sublist.flatMap_right _ fun w hw => (h.workers w hw).front.sublist

/-- There are never more rows than the bound allows, and never more than there are below the roots. -/
theorem Accounts.length_recorded_le (h : q.Accounts p bound roots) :
    q.recorded.length ≤ ((Budget.ofBound bound).limit (roots.flatMap (rowsBelow p))).length := by
  have atMost := h.recorded_sublist.length_le
  rcases Nat.eq_zero_or_pos bound with rfl | some
  · exact atMost
  · rw [Budget.limit_ofBound some, List.length_take, Nat.min_eq_left (Nat.min_le_right _ _)]
    exact Nat.le_min.mpr ⟨h.within some, atMost⟩

/-- When all workers are done, the bound is used up or every row was kept. -/
theorem Accounts.length_recorded (h : q.Accounts p bound roots) (complete : q.Complete) :
    q.recorded.length = ((Budget.ofBound bound).limit (roots.flatMap (rowsBelow p))).length := by
  apply Nat.le_antisymm h.length_recorded_le
  by_cases spent : q.budget.isSpent = true
  · rw [h.budget] at spent
    obtain ⟨some, used⟩ := Budget.isSpent_spend_iff.mp spent
    rw [Budget.limit_ofBound some, List.length_take]
    omega
  · have all : q.recorded = roots.flatMap (rowsBelow p) := by
      rw [← h.roots, List.flatMap_map, recorded]
      refine List.flatMap_congr fun w hw => ?_
      exact ((h.workers w hw).account (complete w hw)).2.resolve_left spent
    rw [all]
    exact (Budget.limit_sublist _).length_le

section Memory

variable {pattern : Graph} (target : p.target.WellFormed) (visits : p.order.Visits pattern)
  (room : 0 < p.order.size)

/-- A worker stores no more than the rows of the whole pool. -/
theorem Accounts.size_rows_le (h : q.Accounts p bound roots) {w : Worker} (hw : w ∈ q.workers) :
    w.rows.data.size ≤
      ((Budget.ofBound bound).limit (roots.flatMap (rowsBelow p))).length * p.order.size := by
  rw [(h.workers w hw).size_rows]
  apply Nat.mul_le_mul_right
  refine le_trans (List.Sublist.length_le ?_) h.length_recorded_le
  exact List.sublist_flatten_of_mem (List.mem_map_of_mem hw)

include target visits room

/-- With room for all rows that are kept in the end, a worker takes its step. -/
theorem Accounts.gives (h : q.Accounts p bound roots) {w : Worker} (hw : w ∈ q.workers)
    (going : w.phase ≠ .done) :
    ∃ next, Gives (fun memory => w.step memory p q.budget)
      (((Budget.ofBound bound).limit (roots.flatMap (rowsBelow p))).length * p.order.size) next := by
  obtain ⟨budget, workers⟩ := q
  obtain ⟨before, after, rfl⟩ := List.append_of_mem hw
  obtain ⟨b', w', stepped, advances⟩ := (h.workers w hw).step room target visits going
  have next := (Worker.asks_step p _ w).gives _ stepped
  have accounts := (h.advance advances).1
  exact ⟨_, fun memory holds => next.held memory (holds.mono (accounts.size_rows_le (by simp))),
    next.limited⟩

/-- Every run can be completed, with room for all rows that are kept in the end. -/
theorem Accounts.exists_complete (h : q.Accounts p bound roots)
    (holds : memory.Holds
      (((Budget.ofBound bound).limit (roots.flatMap (rowsBelow p))).length * p.order.size)) :
    ∃ q', Relation.ReflTransGen (Step memory p) q q' ∧ q'.Complete := by
  have ends := h.acc target visits room memory
  induction ends with
  | intro q _ ih =>
    by_cases complete : q.Complete
    · exact ⟨q, .refl, complete⟩
    · obtain ⟨w, hw, going⟩ : ∃ w ∈ q.workers, w.phase ≠ .done := by
        simpa [Complete] using complete
      obtain ⟨next, gives⟩ := h.gives target visits room hw going
      obtain ⟨budget, workers⟩ := q
      obtain ⟨before, after, rfl⟩ := List.append_of_mem hw
      have step : Step memory p ⟨budget, before ++ w :: after⟩ ⟨next.1, before ++ next.2 :: after⟩ :=
        .work going (gives.held memory holds)
      obtain ⟨q', run, complete⟩ := ih _ step (h.step target visits room step).1
      exact ⟨q', .head step run, complete⟩

end Memory

end Pool

/-- The runs of the workers that search for a pattern keep accounts, and the rows below their roots are
those that a search without a bound finds. -/
theorem exists_accounts {target pattern : Graph} (targetFits : target.WellFormed)
    (patternFits : pattern.WellFormed) (targetSome : 0 < target.vertexCount)
    (patternSome : 0 < pattern.vertexCount) (kind : Kind) :
    ∃ o candidates all, VisitOrder.ofPattern pattern = .ok o ∧ o.Visits pattern ∧
      roots ⟨target, o, kind⟩ = .ok candidates ∧ Finds ⟨kind, false, 0⟩ target pattern all ∧
      all.Complete kind target pattern ∧
      candidates.flatMap (rowsBelow ⟨target, o, kind⟩) = all.table.rows ∧
      all.table = .ofRows pattern.vertexCount all.table.rows ∧
      ∀ (bound : Nat) (memory : Memory) (q : Pool),
        Relation.ReflTransGen (Pool.Step memory ⟨target, o, kind⟩)
          (.start ⟨target, o, kind⟩ pattern.vertexCount bound candidates) q →
        q.Accounts ⟨target, o, kind⟩ bound candidates := by
  obtain ⟨o, ordered, visits, limited⟩ :=
    embeddings_eq_limit targetFits patternFits targetSome patternSome kind
  obtain ⟨all, found, complete⟩ :=
    exists_complete targetFits patternFits targetSome patternSome kind
  obtain rfl := (limited 0).unique found
  have size : o.size = pattern.vertexCount := size_order visits.permutes
  have room : 0 < o.size := size ▸ patternSome
  have columns : (Problem.mk target o kind).order.size = pattern.vertexCount := size
  have leaves := flatMap_rowsBelow (p := ⟨target, o, kind⟩) room
  rw [columns] at leaves
  have rows : (Table.ofRows pattern.vertexCount ((extensions ⟨target, o, kind⟩ pattern.vertexCount
      []).map (arrange o.order))).rows = _ :=
    Table.rows_ofRows (fun row hrow => (size_of_mem_map_arrange row hrow).trans columns) patternSome
  refine ⟨o, candidateList ⟨target, o, kind⟩ [], _, ordered, visits,
    roots_eq (p := ⟨target, o, kind⟩) targetFits visits room, limited 0, complete, ?_, ?_,
    ?_⟩
  · exact leaves.trans rows.symm
  · exact congrArg (Table.ofRows pattern.vertexCount) rows.symm
  · intro bound memory q run
    have started := Pool.accounts_start (p := ⟨target, o, kind⟩) room bound
      (candidateList ⟨target, o, kind⟩ []) fun root hroot => (mem_candidateList.mp hroot).1
    rw [columns] at started
    exact started.run targetFits visits room run

/-- Workers that share a positive bound, one for each root, keep exactly as many rows as it allows,
in whatever order they take their steps. With memory that has room for so many rows no step fails and
every run can be completed; with less a step fails for want of memory at most, and no run is endless.
Once all workers are done, the rows they have kept are different embeddings, and those of each are the
first ones that a search from its root finds. -/
theorem interleaved_rows_exact {target pattern : Graph} (targetMade : target.Constructed)
    (patternMade : pattern.Constructed) (targetSome : 0 < target.vertexCount)
    (patternSome : 0 < pattern.vertexCount) (kind : Kind) {bound : Nat} (bounded : 0 < bound) :
    ∃ o candidates all, VisitOrder.ofPattern pattern = .ok o ∧
      roots ⟨target, o, kind⟩ = .ok candidates ∧
      Finds ⟨kind, false, 0⟩ target pattern all ∧ all.Complete kind target pattern ∧
      ∀ (memory : Memory) (q : Pool), Relation.ReflTransGen (Pool.Step memory ⟨target, o, kind⟩)
          (.start ⟨target, o, kind⟩ pattern.vertexCount bound candidates) q →
        (∀ w ∈ q.workers, w.phase ≠ .done →
          ∃ answer, Gives (fun memory => w.step memory ⟨target, o, kind⟩ q.budget)
            (min bound all.count * pattern.vertexCount) answer) ∧
        Acc (fun later earlier => Pool.Step memory ⟨target, o, kind⟩ earlier later) q ∧
        (memory.Holds (min bound all.count * pattern.vertexCount) →
          ∃ q', Relation.ReflTransGen (Pool.Step memory ⟨target, o, kind⟩) q q' ∧ q'.Complete) ∧
        (q.Complete →
          q.recorded.length = min bound all.count ∧ q.recorded.Nodup ∧
          (∀ row ∈ q.recorded, IsEmbedding kind target pattern row) ∧
          q.workers.map Worker.root = candidates ∧
          ∀ w ∈ q.workers, ∃ begun rows ended,
            (Search.start target).restart w.root = .ok begun ∧
            begun.drain ⟨target, o, kind⟩ = .ok (rows, ended) ∧ w.rows.rows <+: rows) := by
  have targetFits := targetMade.wellFormed
  have patternFits := patternMade.wellFormed
  obtain ⟨o, candidates, all, ordered, visits, rooted, found, complete, rows, -, reached⟩ :=
    exists_accounts targetFits patternFits targetSome patternSome kind
  have size : o.size = pattern.vertexCount := size_order visits.permutes
  have room : 0 < o.size := size ▸ patternSome
  have columns : (Problem.mk target o kind).order.size = pattern.vertexCount := size
  have most : ((Budget.ofBound bound).limit
      (candidates.flatMap (rowsBelow ⟨target, o, kind⟩))).length = min bound all.count := by
    rw [rows, Budget.limit_ofBound bounded, List.length_take, ← complete.count,
      Nat.min_eq_left (Nat.min_le_right _ _)]
  refine ⟨o, candidates, all, ordered, rooted, found, complete, fun memory q run => ?_⟩
  have accounts := reached bound memory q run
  have kept := accounts.recorded_sublist
  have completed : memory.Holds _ → _ := accounts.exists_complete targetFits visits room
  rw [rows] at kept
  rw [most, columns] at completed
  refine ⟨fun w hw going => ?_, accounts.acc targetFits visits room memory, completed,
    fun done => ⟨?_, kept.nodup complete.nodup, ?_, accounts.roots, ?_⟩⟩
  · have gives := accounts.gives targetFits visits room hw going
    rwa [most, columns] at gives
  · rw [accounts.length_recorded done, most]
  · exact fun row hrow => (complete.mem_rows row).mp (kept.subset hrow)
  · intro w hw
    have account := accounts.workers w hw
    obtain ⟨begun, ended, restarted, drained, -⟩ := Search.drain_restart
      (p := ⟨target, o, kind⟩) targetFits visits Search.coherent_start account.inside room
    exact ⟨begun, _, ended, restarted, drained, account.front⟩

/-- An edge in a path of three vertices: three of the four embeddings are kept, in a memory that has room
for no more. -/
theorem interleaved_rows_exact_path : ∃ (target pattern : Graph) (o : VisitOrder) (q : Pool),
    Graph.ofEdges [(0, 1), (1, 2)] = .ok target ∧ Graph.ofEdges [(0, 1)] = .ok pattern ∧
      VisitOrder.ofPattern pattern = .ok o ∧
      Relation.ReflTransGen (Pool.Step (.machine (· ≤ 6)) ⟨target, o, .induced⟩)
        (.start ⟨target, o, .induced⟩ 2 3 [0, 1, 2]) q ∧
      q.Complete ∧ q.recorded.length = 3 ∧ q.recorded.Nodup ∧
      ∀ row ∈ q.recorded, IsEmbedding .induced target pattern row := by
  have target : Graph.ofEdges [(0, 1), (1, 2)] =
      .ok ⟨2, #[0, 1, 3, 4], #[1, 0, 2, 1], #[1, 2, 1]⟩ := by cbv
  have pattern : Graph.ofEdges [(0, 1)] = .ok ⟨1, #[0, 1, 2], #[1, 0], #[1, 1]⟩ := by cbv
  have order : VisitOrder.ofPattern ⟨1, #[0, 1, 2], #[1, 0], #[1, 1]⟩ =
      .ok ⟨#[0, 1], #[1, 1], #[[], [0]], #[[], []]⟩ := by cbv
  have rooted : roots ⟨⟨2, #[0, 1, 3, 4], #[1, 0, 2, 1], #[1, 2, 1]⟩,
      ⟨#[0, 1], #[1, 1], #[[], [0]], #[[], []]⟩, .induced⟩ = .ok [0, 1, 2] := by cbv
  obtain ⟨o, candidates, all, ordered, rooted', everything, -, runs⟩ :=
    interleaved_rows_exact (.ofEdges target) (.ofEdges pattern) (by decide) (by decide) .induced
      (show 0 < 3 by decide)
  rw [order, Except.ok.injEq] at ordered
  subst ordered
  rw [rooted, Except.ok.injEq] at rooted'
  subst rooted'
  -- the leaves of the tree are few enough to be counted
  obtain ⟨o, ordered, -, found⟩ := embeddings_eq_limit (Graph.Constructed.ofEdges target).wellFormed
    (Graph.Constructed.ofEdges pattern).wellFormed (by decide) (by decide) .induced
  rw [order, Except.ok.injEq] at ordered
  subst ordered
  have count : all.count = 4 := by
    rw [← (found 0).unique everything]
    decide +kernel
  have holds : (Memory.machine (· ≤ 6)).Holds (min 3 all.count * 2) := by
    rw [count]
    exact ⟨by decide, fun m small => decide_eq_true small⟩
  obtain ⟨-, -, completed, -⟩ := runs (.machine (· ≤ 6)) _ .refl
  obtain ⟨q, run, complete⟩ := completed holds
  obtain ⟨-, -, -, kept⟩ := runs _ q run
  obtain ⟨length, nodup, embedded, -⟩ := kept complete
  rw [count] at length
  exact ⟨_, _, _, q, target, pattern, order, run, complete, length, nodup, embedded⟩

end Motif.Matching
