import Motif.Proofs.Rows
import Motif.Table

/-!
# Tables and their rows

A table is the table of its rows. Pushing a row and appending a table add to the rows at the end,
and a table with columns gives back the rows that it was made of.
-/

set_option autoImplicit false

namespace Motif.Table

variable {α : Type}

/-- The table that holds the given rows, one after the other. -/
def ofRows (columns : Nat) (rows : List (Array α)) : Table α :=
  ⟨columns, (rows.map Array.toList).flatten.toArray⟩

@[simp] theorem columnCount_ofRows (columns : Nat) (rows : List (Array α)) :
    (ofRows columns rows).columnCount = columns := rfl

theorem ofRows_nil (columns : Nat) : ofRows columns ([] : List (Array α)) = .empty columns := rfl

theorem pushRow_ofRows {columns : Nat} (rows : List (Array α)) {row : Array α}
    (size : row.size = columns) :
    (ofRows columns rows).pushRow .unlimited row = .ok (ofRows columns (rows ++ [row])) := by
  rw [pushRow, columnCount_ofRows, if_pos size]
  simp [reserveRows, ofRows]

theorem append_ofRows (columns : Nat) (rows rows' : List (Array α)) :
    (ofRows columns rows).append .unlimited (ofRows columns rows') =
      .ok (ofRows columns (rows ++ rows'), .empty columns) := by
  rw [append, if_pos (.inr rfl)]
  simp [reserveRows, ofRows, empty]

section Rows

variable {columns : Nat} {rows : List (Array α)} (sizes : ∀ row ∈ rows, row.size = columns)
include sizes

theorem map_length_rows :
    (rows.map Array.toList).map List.length = List.replicate rows.length columns := by
  rw [List.map_map, List.eq_replicate_iff]
  refine ⟨List.length_map _, fun n hn => ?_⟩
  obtain ⟨row, hrow, rfl⟩ := List.mem_map.mp hn
  exact sizes row hrow

theorem size_ofRows : (ofRows columns rows).data.size = rows.length * columns := by
  rw [ofRows, List.size_toArray, List.length_flatten, map_length_rows sizes, List.sum_replicate,
    Nat.nsmul_eq_mul]

theorem rowCount_ofRows (some : 0 < columns) : (ofRows columns rows).rowCount = rows.length := by
  rw [rowCount, columnCount_ofRows, if_neg (Nat.ne_of_gt some), size_ofRows sizes,
    Nat.mul_div_cancel _ some]

/-- The rows of a table are those that it was made of. -/
theorem rows_ofRows (some : 0 < columns) : (ofRows columns rows).rows = rows := by
  apply List.ext_getElem
  · rw [Table.rows, List.length_map, List.length_range, rowCount_ofRows sizes some]
  · intro i _ hi
    have inside : i < (rows.map Array.toList).length := by simpa using hi
    have start : ((List.replicate rows.length columns).take i).sum = i * columns := by
      rw [List.take_replicate, List.sum_replicate, Nat.nsmul_eq_mul, Nat.min_eq_left (by omega)]
    have whole := Graph.slice_flatten (rows.map Array.toList) inside (Nat.le_refl _)
    rw [map_length_rows sizes, start, List.take_length, List.getElem_map, Array.length_toList,
      sizes rows[i] (List.getElem_mem hi), ← Nat.succ_mul] at whole
    have cells := (slice_eq_ok.mp whole).2.2
    simp only [Table.rows, List.getElem_map, List.getElem_range, columnCount_ofRows]
    exact cells

end Rows

end Motif.Table
