import Motif.Proofs.Matching.Interleaving
import Motif.Proofs.Table.Reduction

/-!
# Searching in parallel

The workers of a search take their steps in any order, and those that are done pass their searches on;
their tables are merged along whatever tree the work was split by. None of this can be seen in the
result: without a bound it is the table that one worker finds who goes from root to root, and with one it
holds some of the rows of this table, in the same order and as many as the bound allows.
-/

set_option autoImplicit false

namespace Motif.Matching

variable {p : Problem} {bound : Nat} {roots : List Nat} {q : Pool}

/-- At any time the tables of the workers are merged into the table of all rows kept so far. -/
theorem Pool.Accounts.merges (h : q.Accounts p bound roots) (r : Table.Reduction Nat)
    (tables : r.tables = q.workers.map Worker.rows) :
    Gives (fun memory => r.run memory p.order.size) (q.recorded.length * p.order.size)
      (.ofRows p.order.size q.recorded) := by
  have fit : ∀ t ∈ r.tables, t.columnCount = p.order.size ∧ p.order.size ∣ t.data.size := by
    rw [tables]
    intro t ht
    obtain ⟨w, hw, rfl⟩ := List.mem_map.mp ht
    have account := h.workers w hw
    exact ⟨congrArg Table.columnCount account.table, account.size_rows ▸ Nat.dvd_mul_left _ _⟩
  have holds : Memory.unlimited.Holds (r.tables.map (·.data.size)).sum := trivial
  have ran := r.run_eq holds fit (Nat.le_refl _)
  have rows : r.tables.flatMap Table.rows = q.recorded := by
    rw [tables, List.flatMap_map]
    rfl
  have sizes : ∀ row ∈ q.recorded, row.size = p.order.size := by
    intro row hrow
    obtain ⟨root, -, below⟩ := List.mem_flatMap.mp (h.recorded_sublist.subset hrow)
    exact size_of_mem_rowsBelow row below
  rw [Table.merged, rows] at ran
  have gives := r.asks_run.gives _ ran
  rwa [Table.size_ofRows sizes] at gives

/-- A search that is split among workers, whatever the order of their steps and the tree that their
tables are merged along. Every run ends, and it can be completed if there is room for the rows of a search
without a bound, as far as the bound allows them. Then merging gives the rows that the workers have
kept: as many as that, and all of them in the same order if there is no bound. -/
theorem parallel_tables_agree {target pattern : Graph} (targetMade : target.Constructed)
    (patternMade : pattern.Constructed) (targetSome : 0 < target.vertexCount)
    (patternSome : 0 < pattern.vertexCount) (kind : Kind) :
    ∃ o candidates all, VisitOrder.ofPattern pattern = .ok o ∧
      Matching.roots ⟨target, o, kind⟩ = .ok candidates ∧
      Finds ⟨kind, false, 0⟩ target pattern all ∧
      ∀ (bound : Nat) (memory : Memory) (q : Pool),
        Relation.ReflTransGen (Pool.Step memory ⟨target, o, kind⟩)
          (.start ⟨target, o, kind⟩ pattern.vertexCount bound candidates) q →
        let most := ((Budget.ofBound bound).limit all.table.rows).length
        Acc (fun later earlier => Pool.Step memory ⟨target, o, kind⟩ earlier later) q ∧
        (memory.Holds (most * pattern.vertexCount) →
          ∃ q', Relation.ReflTransGen (Pool.Step memory ⟨target, o, kind⟩) q q' ∧ q'.Complete) ∧
        (q.Complete → ∀ r : Table.Reduction Nat, r.tables = q.workers.map Worker.rows →
          ∃ whole : Table Nat,
            Gives (fun memory => r.run memory pattern.vertexCount) (most * pattern.vertexCount) whole ∧
            whole.rows = q.recorded ∧ whole.rows.length = most ∧
            whole.rows.Sublist all.table.rows ∧ (bound = 0 → whole = all.table)) := by
  have targetFits := targetMade.wellFormed
  have patternFits := patternMade.wellFormed
  obtain ⟨o, candidates, all, ordered, visits, rooted, found, complete, rows, whole, reached⟩ :=
    exists_accounts targetFits patternFits targetSome patternSome kind
  have size : o.size = pattern.vertexCount := size_order visits.permutes
  have columns : (Problem.mk target o kind).order.size = pattern.vertexCount := size
  refine ⟨o, candidates, all, ordered, rooted, found, fun bound memory q run => ?_⟩
  have accounts := reached bound memory q run
  have room : 0 < o.size := size ▸ patternSome
  have completed : memory.Holds _ → _ := accounts.exists_complete targetFits visits room
  have kept := accounts.recorded_sublist
  rw [rows, columns] at completed
  rw [rows] at kept
  refine ⟨accounts.acc targetFits visits room memory, completed, fun done r tables => ?_⟩
  have most := accounts.length_recorded done
  have merges := accounts.merges r tables
  rw [rows] at most
  rw [most, columns] at merges
  have listed : (Table.ofRows pattern.vertexCount q.recorded).rows = q.recorded := by
    refine Table.rows_ofRows (fun row hrow => ?_) patternSome
    exact ((complete.mem_rows row).mp (kept.subset hrow)).size
  refine ⟨_, merges, listed, ?_, ?_, ?_⟩
  · rw [listed, most]
  · rw [listed]
    exact kept
  · rintro rfl
    rw [kept.eq_of_length most]
    exact whole.symm

end Motif.Matching
