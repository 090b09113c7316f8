import Motif.Proofs.Table.Room

/-!
# Merging along a tree

Workers that finish in groups have their tables merged along a tree, into which new tables may come as
well. Appending joins the lists of rows that two tables stand for, and a new table stands for none, so
the tree does not matter: what comes out are the rows of all tables, from left to right.
-/

set_option autoImplicit false

namespace Motif

namespace Table

variable {α : Type} {memory : Memory} {columns : Nat}

theorem data_ofRows_append (rows rows' : List (Array α)) :
    (ofRows columns (rows ++ rows')).data =
      (ofRows columns rows).data ++ (ofRows columns rows').data := by
  simp [ofRows]

/-- A way to merge tables: which are joined in which order, and where a new one comes in. -/
inductive Reduction (α : Type) where
  | new
  | table (t : Table α)
  | join (left right : Reduction α)

namespace Reduction

/-- The tables that are merged, from left to right. -/
def tables : Reduction α → List (Table α)
  | .new => []
  | .table t => [t]
  | .join left right => left.tables ++ right.tables

/-- Appends, at every join, what comes from the right to what comes from the left. -/
def run (memory : Memory) (columns : Nat) : Reduction α → Except Error (Table α)
  | .new => .ok (.empty columns)
  | .table t => .ok t
  | .join left right => do
    let t ← left.run memory columns
    let other ← right.run memory columns
    let (merged, _) ← t.append memory other
    return merged

end Reduction

theorem Reduction.asks_run (r : Reduction α) :
    Asks (fun memory => r.run memory columns) 0 (·.data.size) := by
  induction r with
  | new => exact .ok (Nat.zero_le _)
  | table t => exact .ok (Nat.zero_le _)
  | join left right ihLeft ihRight =>
    refine ihLeft.bind fun t _ => ?_
    refine (ihRight.beside _).bind fun other _ => ?_
    exact (t.asks_append other).bind fun merged _ => .ok (Nat.le_refl _)

/-- The rows of tables with the same columns, one table after the other. -/
def merged (columns : Nat) (tables : List (Table α)) : Table α :=
  ofRows columns (tables.flatMap rows)

theorem data_merged_append (tables tables' : List (Table α)) :
    (merged columns (tables ++ tables')).data =
      (merged columns tables).data ++ (merged columns tables').data := by
  rw [merged, List.flatMap_append, data_ofRows_append]
  rfl

section Merged

variable {tables : List (Table α)}
  (fit : ∀ t ∈ tables, t.columnCount = columns ∧ columns ∣ t.data.size)
include fit

theorem rows_merged : (merged columns tables).rows = tables.flatMap rows := by
  apply rows_ofRows_of_noColumns
  · intro row hrow
    obtain ⟨t, ht, listed⟩ := List.mem_flatMap.mp hrow
    exact (size_of_mem_rows listed).trans (fit t ht).1
  · intro none
    rw [List.flatMap_eq_nil_iff]
    exact fun t ht => rows_of_columnCount_eq_zero ((fit t ht).1.trans none)

omit fit in
theorem merged_singleton {t : Table α} (filled : t.columnCount ∣ t.data.size) :
    merged t.columnCount [t] = t := by
  rw [merged, List.flatMap_singleton, ofRows_rows filled]

theorem size_merged : (merged columns tables).data.size = (tables.map (·.data.size)).sum := by
  induction tables with
  | nil => rfl
  | cons t tables ih =>
    obtain ⟨rfl, filled⟩ := fit t List.mem_cons_self
    rw [← List.singleton_append, data_merged_append, Array.size_append, merged_singleton filled,
      ih fun t' ht' => fit t' (List.mem_cons_of_mem t ht'), List.singleton_append, List.map_cons,
      List.sum_cons]

end Merged

theorem append_merged {tables tables' : List (Table α)}
    (granted : (merged columns tables).reserveRows memory (merged columns tables').rowCount =
      .ok ()) :
    (merged columns tables).append memory (merged columns tables') =
      .ok (merged columns (tables ++ tables'), .empty columns) := by
  refine append_eq_ok.mpr ⟨.inr rfl, granted, ?_, rfl⟩
  rw [← data_merged_append]
  rfl

/-- Whatever the tree, its tables are merged from left to right. -/
theorem Reduction.run_eq {n : Nat} (holds : memory.Holds n) (r : Reduction α)
    (fit : ∀ t ∈ r.tables, t.columnCount = columns ∧ columns ∣ t.data.size)
    (fits : (r.tables.map (·.data.size)).sum ≤ n) :
    r.run memory columns = .ok (merged columns r.tables) := by
  induction r with
  | new => rfl
  | table t =>
    obtain ⟨rfl, filled⟩ := fit t List.mem_cons_self
    rw [run, tables, merged_singleton filled]
  | join left right ihLeft ihRight =>
    have fitLeft t ht := fit t (List.mem_append_left right.tables ht)
    have fitRight t ht := fit t (List.mem_append_right left.tables ht)
    rw [tables, List.map_append, List.sum_append, ← size_merged fitLeft, ← size_merged fitRight]
      at fits
    have granted : (merged columns left.tables).reserveRows memory
        (merged columns right.tables).rowCount = .ok () :=
      reserveRows_of_holds holds ((Nat.add_le_add_left (rowCount_mul_le _) _).trans fits)
    rw [run, ihLeft fitLeft (by rw [← size_merged fitLeft]; omega), ok_bind,
      ihRight fitRight (by rw [← size_merged fitRight]; omega), ok_bind, append_merged granted,
      ok_bind]
    rfl

/-- Tables with the same columns are merged into one table along every tree over their sequence,
whichever new tables come in on the way: no append fails, and the rows of the result are those of the
tables, one table after the other. -/
theorem reductions_agree {tables : List (Table α)}
    (fit : ∀ t ∈ tables, t.columnCount = columns ∧ columns ∣ t.data.size)
    (holds : memory.Holds (tables.map (·.data.size)).sum) :
    ∃ whole : Table α, whole.columnCount = columns ∧ whole.rows = tables.flatMap rows ∧
      ∀ r : Reduction α, r.tables = tables → r.run memory columns = .ok whole := by
  refine ⟨merged columns tables, rfl, rows_merged fit, ?_⟩
  rintro r rfl
  exact r.run_eq holds fit (Nat.le_refl _)

/-- Three tables, one of them without rows, merged along two trees with new tables at different
places. -/
theorem reductions_agree_apart :
    let first : Table Nat := ⟨2, #[0, 1]⟩
    let second : Table Nat := ⟨2, #[1, 0, 2, 3]⟩
    let tables := [first, .empty 2, second]
    let memory := Memory.machine fun _ => true
    (∀ t ∈ tables, t.columnCount = 2 ∧ 2 ∣ t.data.size) ∧
      memory.Holds (tables.map (·.data.size)).sum ∧
      ∃ whole : Table Nat, whole.rows = [#[0, 1], #[1, 0], #[2, 3]] ∧
        (Reduction.join (.join .new (.table first)) (.join (.table (.empty 2)) (.table second))).run
          memory 2 = .ok whole ∧
        (Reduction.join (.table first) (.join (.join (.table (.empty 2)) .new)
          (.join (.table second) .new))).run memory 2 = .ok whole := by
  intro first second tables memory
  have fit : ∀ t ∈ tables, t.columnCount = 2 ∧ 2 ∣ t.data.size := by decide
  have holds : memory.Holds (tables.map (·.data.size)).sum := ⟨by decide, fun _ _ => rfl⟩
  obtain ⟨whole, -, rows, agree⟩ := reductions_agree fit holds
  exact ⟨fit, holds, whole, rows.trans (by decide), agree _ rfl, agree _ rfl⟩

end Table

end Motif
