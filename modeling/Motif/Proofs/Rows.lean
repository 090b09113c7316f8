import Motif.Graph.Build
import Motif.Proofs.Sequence

/-!
# Rows in one array

Offsets are the sums of row lengths, and they locate every row in the array that holds the rows
one after the other. Cutting that array at the offsets gives the rows back.
-/

set_option autoImplicit false

namespace Motif.Graph

variable {α : Type}

/-- The sums of the first `0`, `1`, .. and all counts. -/
def sums (counts : List Nat) : List Nat :=
  (List.range (counts.length + 1)).map fun i => (counts.take i).sum

@[simp] theorem length_sums (counts : List Nat) : (sums counts).length = counts.length + 1 := by
  simp [sums]

@[simp] theorem getElem_sums (counts : List Nat) (i : Nat) (h : i < (sums counts).length) :
    (sums counts)[i] = (counts.take i).sum := by
  simp [sums]

theorem sums_cons (count : Nat) (counts : List Nat) :
    sums (count :: counts) = 0 :: (sums counts).map (count + ·) := by
  simp [sums, List.range_succ_eq_map, Function.comp_def]

theorem sums_eq_cons_tail (counts : List Nat) : sums counts = 0 :: (sums counts).tail := by
  cases counts with
  | nil => rfl
  | cons count counts => rw [sums_cons, List.tail_cons]

theorem sum_take_le (counts : List Nat) (i : Nat) : (counts.take i).sum ≤ counts.sum := by
  conv_rhs => rw [← List.take_append_drop i counts, List.sum_append]
  exact Nat.le_add_right _ _

theorem sum_take_succ (counts : List Nat) {i : Nat} (h : i < counts.length) :
    (counts.take (i + 1)).sum = (counts.take i).sum + counts[i] := by
  rw [List.take_succ_eq_append_getElem h, List.sum_append, List.sum_singleton]

theorem sum_take_mono (counts : List Nat) {i j : Nat} (h : i ≤ j) :
    (counts.take i).sum ≤ (counts.take j).sum := by
  have := sum_take_le (counts.take j) i
  rwa [List.take_take, Nat.min_eq_left h] at this

/-- One more sum, as it is added behind those before it. -/
def pushSum (sums : Array Nat × Nat) (count : Nat) : Except Error (Array Nat × Nat) := do
  let total ← checkedAdd sums.2 count
  return (sums.1.push total, total)

theorem foldlM_pushSum (counts : List Nat) (done : Array Nat) (total : Nat)
    (h : total < sizeLimit) :
    counts.foldlM pushSum (done, total) =
      if total + counts.sum < sizeLimit then
        .ok (done ++ ((sums counts).tail.map (total + ·)).toArray, total + counts.sum)
      else .error .sumOverflow := by
  induction counts generalizing done total with
  | nil => simp [sums, h, pure, Except.pure]
  | cons count counts ih =>
    rw [List.foldlM_cons, List.sum_cons]
    by_cases fits : total + count < sizeLimit
    · have step : pushSum (done, total) count = .ok (done.push (total + count), total + count) := by
        simp [pushSum, checkedAdd, fits]
      rw [step, ok_bind, ih _ _ fits, sums_cons, List.tail_cons, Nat.add_assoc]
      conv_rhs => rw [sums_eq_cons_tail counts]
      simp [Nat.add_assoc, Function.comp_def]
    · have step : pushSum (done, total) count = .error .sumOverflow := by
        simp [pushSum, checkedAdd, fits]
      rw [step, error_bind, if_neg (by omega)]

/-- The two checked additions fail exactly when a sum is no number of 64 bits. -/
theorem prefixSums_eq (counts : List Nat) :
    prefixSums counts =
      if counts.length + 1 < sizeLimit ∧ counts.sum < sizeLimit then .ok (sums counts).toArray
      else .error .sumOverflow := by
  have run := foldlM_pushSum counts #[0] 0 (by decide)
  change (do let _ ← checkedAdd counts.length 1; let r ← counts.foldlM pushSum (#[0], 0)
             return r.1) = _
  rw [run]
  by_cases few : counts.length + 1 < sizeLimit
  · by_cases fits : counts.sum < sizeLimit
    · conv_rhs => rw [sums_eq_cons_tail counts]
      simp [checkedAdd, few, fits]
    · simp [checkedAdd, few, fits]
  · simp [checkedAdd, few]

theorem prefixSums_eq_ok_iff {counts : List Nat} {offsets : Array Nat} :
    prefixSums counts = .ok offsets ↔
      counts.length + 1 < sizeLimit ∧ counts.sum < sizeLimit ∧
        offsets = (sums counts).toArray := by
  rw [prefixSums_eq]
  split
  case isTrue h => simp only [Except.ok.injEq, h.1, h.2, true_and, eq_comm]
  case isFalse h => exact ⟨nofun, fun h' => absurd ⟨h'.1, h'.2.1⟩ h⟩

theorem drop_flatten (rows : List (List α)) {v : Nat} (h : v < rows.length) :
    rows.flatten.drop ((rows.map List.length).take v).sum =
      rows[v] ++ (rows.drop (v + 1)).flatten := by
  rw [List.drop_sum_flatten, List.drop_eq_getElem_cons h, List.flatten_cons]

theorem getElem?_flatten (rows : List (List α)) {v k : Nat} (h : v < rows.length)
    (hk : k < rows[v].length) :
    rows.flatten[((rows.map List.length).take v).sum + k]? = some rows[v][k] := by
  rw [← List.getElem?_drop, drop_flatten rows h, List.getElem?_append_left hk,
    List.getElem?_eq_getElem hk]

/-- The front of a row stands at the offset of the row. -/
theorem slice_flatten (rows : List (List α)) {v k : Nat} (h : v < rows.length)
    (hk : k ≤ rows[v].length) :
    slice rows.flatten.toArray ((rows.map List.length).take v).sum
      (((rows.map List.length).take v).sum + k) = .ok (rows[v].take k).toArray := by
  have tail := drop_flatten rows h
  have room := congrArg List.length tail
  rw [List.length_drop, List.length_append] at room
  have before : ((rows.map List.length).take v).sum ≤ rows.flatten.length := by
    rw [List.length_flatten]
    exact sum_take_le _ _
  refine slice_eq_ok.mpr ⟨Nat.le_add_right _ _, ?_, ?_⟩
  · rw [List.size_toArray]
    omega
  · rw [List.extract_toArray, List.extract_eq_take_drop, Nat.add_sub_cancel_left, tail,
      List.take_append_of_le_length hk]

theorem bounds_sums (counts : List Nat) :
    bounds (sums counts).toArray =
      (List.range counts.length).map fun v => ((counts.take v).sum, (counts.take (v + 1)).sum) := by
  apply List.ext_getElem
  · simp [bounds]
  · intro v hv _
    simp [bounds]

theorem cutRows_flatten (rows : List (List α)) :
    cutRows rows.flatten.toArray (sums (rows.map List.length)).toArray =
      .ok (rows.map List.toArray) := by
  rw [cutRows, bounds_sums, List.mapM_map, List.length_map]
  rw [mapM_eq_map (g := fun v => (rows[v]?.getD []).toArray)]
  · congr 1
    apply List.ext_getElem
    · simp
    · intro v hv _
      simp at hv
      simp [hv]
  · intro v hv
    have hv : v < rows.length := List.mem_range.mp hv
    have next := sum_take_succ (rows.map List.length) (i := v) (by simpa using hv)
    have whole := slice_flatten rows hv (Nat.le_refl _)
    rw [List.getElem_map] at next
    rw [Function.comp_apply, next, whole, List.take_length, List.getElem?_eq_getElem hv, Option.getD_some]

/-- The rows of an array, one length after the other. -/
theorem exists_rows (counts : List Nat) (xs : List α) (h : xs.length = counts.sum) :
    ∃ rows : List (List α), rows.map List.length = counts ∧ rows.flatten = xs :=
  ⟨counts.splitLengths xs, List.map_splitLengths_length xs counts (by omega),
    List.flatten_splitLengths xs counts (by omega)⟩

/-- An array of the right length that has every element of every row in its place holds the rows
one after the other. -/
theorem eq_flatten (rows : List (List α)) {xs : List α}
    (length : xs.length = (rows.map List.length).sum)
    (placed : ∀ v (hv : v < rows.length) k (hk : k < rows[v].length),
      xs[((rows.map List.length).take v).sum + k]? = some rows[v][k]) : xs = rows.flatten := by
  obtain ⟨rows', lengths, rfl⟩ := exists_rows (rows.map List.length) xs length
  suffices same : rows' = rows by rw [same]
  have count : rows'.length = rows.length := by simpa using congrArg List.length lengths
  apply List.ext_getElem count
  intro v hv' hv
  have size : rows'[v].length = rows[v].length := by
    have := congrArg (·[v]?) lengths
    simpa [hv, hv'] using this
  apply List.ext_getElem size
  intro k hk' hk
  have here := placed v hv k hk
  rw [← lengths, getElem?_flatten rows' hv' hk'] at here
  exact Option.some.inj here

end Motif.Graph
