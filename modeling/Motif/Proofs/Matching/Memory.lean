import Motif.Matching.Embeddings
import Motif.Proofs.Table.Room

/-!
# Searching with a limited memory

Workers ask for room for the rows that they keep, and so does the table that all rows are appended to.
Nothing that is stored becomes smaller, so memory that has room for the result has room all along.
-/

set_option autoImplicit false

namespace Motif.Matching

theorem Worker.asks_step (p : Problem) (b : Budget) (w : Worker) :
    Asks (fun memory => w.step memory p b) w.rows.data.size (·.2.rows.data.size) := by
  unfold Worker.step
  cases w.phase with
  | waiting =>
    by_cases spent : b.isSpent = true
    · simp only [spent, if_true]
      exact .ok (Nat.le_refl _)
    · simp only [spent]
      refine .const fun next stepped => ?_
      obtain ⟨search, -, ⟨⟩⟩ := bind_eq_ok.mp stepped
      exact Nat.le_refl _
  | searching =>
    refine .const fun next stepped => ?_
    obtain ⟨⟨_ | row, search⟩, -, ⟨⟩⟩ := bind_eq_ok.mp stepped
    · exact Nat.le_refl _
    · exact Nat.le_refl _
  | holding row =>
    cases b.claim with
    | none => exact .ok (Nat.le_refl _)
    | some left => exact (w.rows.asks_pushRow row).bind fun rows _ => .ok (Nat.le_refl _)
  | done => exact .ok (Nat.le_refl _)

theorem Worker.run_eq_bind (memory : Memory) (p : Problem) (b : Budget) (w : Worker) :
    Worker.run memory p b w = w.step memory p b >>= fun next =>
      if next.2.phase = .done then .ok next else Worker.run memory p next.1 next.2 := by
  rw [Worker.run]
  split
  case h_1 e failed => rw [failed, error_bind]
  case h_2 b' w' stepped =>
    rw [stepped, ok_bind]
    split
    · rfl
    · rfl

theorem Worker.asks_run (p : Problem) (b : Budget) (w : Worker) :
    Asks (fun memory => Worker.run memory p b w) w.rows.data.size (·.2.rows.data.size) := by
  simp only [Worker.run_eq_bind _ p b w]
  refine (w.asks_step p b).bind fun next stepped => ?_
  by_cases done : next.2.phase = .done
  · simp only [done, if_true]
    exact .ok (Nat.le_refl _)
  · simp only [done, if_false]
    exact Worker.asks_run p next.1 next.2
termination_by w.effort p
decreasing_by exact effort_lt_of_step stepped done

theorem Progress.asks_visit (p : Problem) (columns : Nat) (s : Progress) (root : Nat) :
    Asks (fun memory => Progress.visit memory p columns s root) s.table.data.size
      (·.table.data.size) := by
  unfold Progress.visit
  refine ((Worker.asks_run p s.budget (.waiting columns root s.search)).beside _).bind fun ran _ => ?_
  exact (s.table.asks_append ran.2.rows).bind fun appended _ => .ok (Nat.le_refl _)

theorem asks_collect (p : Problem) (columns bound : Nat) :
    Asks (fun memory => collect memory p columns bound) 0 (·.data.size) := by
  unfold collect
  refine .after fun candidates => ?_
  exact (Asks.foldlM (fun s root => Progress.asks_visit p columns s root) candidates _).bind
    fun done _ => .ok (Nat.le_refl _)

theorem asks_embeddings (options : Options) (target pattern : Graph) :
    Asks (fun memory => embeddings memory options target pattern) 0 (·.table.data.size) := by
  unfold embeddings
  refine .after fun bound => ?_
  split
  case isTrue => exact .const fun _ _ => Nat.zero_le _
  case isFalse =>
    refine .after fun order => ?_
    exact (asks_collect _ _ _).bind fun table _ => .ok (Nat.le_refl _)

/-- What a search finds: with room for its table it gives just this, and with less it does so or fails
for want of memory. -/
def Finds (options : Options) (target pattern : Graph) (found : Embeddings) : Prop :=
  Gives (fun memory => embeddings memory options target pattern) found.table.data.size found

theorem finds_iff {options : Options} {target pattern : Graph} {found : Embeddings} :
    Finds options target pattern found ↔
      embeddings .unlimited options target pattern = .ok found :=
  ⟨fun finds => finds.held .unlimited trivial, (asks_embeddings options target pattern).gives found⟩

theorem Finds.unique {options : Options} {target pattern : Graph} {found found' : Embeddings}
    (finds : Finds options target pattern found) (finds' : Finds options target pattern found') :
    found = found' :=
  Except.ok.inj ((finds_iff.mp finds).symm.trans (finds_iff.mp finds'))

end Motif.Matching
