import Motif.Proofs.Table
import Motif.Table.Store

/-!
# Tables stand for lists of rows

The data of a table fill its rows, so their number is a multiple of the number of columns, and zero
if there are no columns. Every step on a store of tables keeps this. A table can then be read as the
list of its rows, and a store as a shelf of such lists, on which pushing and appending add to the end.
-/

set_option autoImplicit false

namespace Motif.Table

variable {α : Type}

/-- A table apart from how its cells are laid out. -/
structure Listing (α : Type) where
  columnCount : Nat
  rows : List (Array α)

/-- A table answers as the list of rows it stands for. Without columns there is no row. -/
structure Lists (t : Table α) (l : Listing α) : Prop where
  columns : t.columnCount = l.columnCount
  filled : t.columnCount ∣ t.data.size
  sizes : ∀ row ∈ l.rows, row.size = l.columnCount
  noColumns : l.columnCount = 0 → l.rows = []
  data : t.data = (l.rows.map Array.toList).flatten.toArray
  listed : t.rows = l.rows
  counted : t.rowCount = l.rows.length
  found : ∀ overflow i row, l.rows[i]? = some row → t.row overflow i = .ok row

/-- The data fill their rows, and a machine can hold them. -/
structure Sound (t : Table α) : Prop where
  filled : t.columnCount ∣ t.data.size
  held : t.data.size * elementSize < byteLimit

section Reading

variable {t : Table α}

/-- Data that fill their rows can be cut into them. -/
theorem exists_eq_ofRows (filled : t.columnCount ∣ t.data.size) :
    ∃ rows, t = ofRows t.columnCount rows ∧ (∀ row ∈ rows, row.size = t.columnCount) ∧
      (t.columnCount = 0 → rows = []) := by
  obtain ⟨n, size⟩ := filled
  rcases Nat.eq_zero_or_pos t.columnCount with none | some
  · have empty : t.data = #[] := by
      rw [none, Nat.zero_mul] at size
      exact Array.eq_empty_of_size_eq_zero size
    refine ⟨[], ?_, by simp, fun _ => rfl⟩
    rw [ofRows_nil, Table.empty, ← empty]
  · obtain ⟨rows, lengths, whole⟩ := Graph.exists_rows (List.replicate n t.columnCount)
      t.data.toList (by rw [Array.length_toList, size, List.sum_replicate, Nat.nsmul_eq_mul,
        Nat.mul_comm])
    refine ⟨rows.map List.toArray, ?_, ?_, fun none => absurd none (Nat.ne_of_gt some)⟩
    · rw [ofRows, List.map_map, show Array.toList ∘ List.toArray = (id : List α → List α) from rfl,
        List.map_id, whole]
    · intro row hrow
      obtain ⟨cells, hcells, rfl⟩ := List.mem_map.mp hrow
      have := List.mem_map_of_mem (f := List.length) hcells
      rw [lengths] at this
      exact List.eq_of_mem_replicate this

theorem rows_of_columnCount_eq_zero (none : t.columnCount = 0) : t.rows = [] := by
  rw [Table.rows, rowCount, if_pos none]
  rfl

theorem rows_ofRows_of_noColumns {columns : Nat} {rows : List (Array α)}
    (sizes : ∀ row ∈ rows, row.size = columns) (noColumns : columns = 0 → rows = []) :
    (ofRows columns rows).rows = rows := by
  rcases Nat.eq_zero_or_pos columns with none | some
  · rw [rows_of_columnCount_eq_zero none, noColumns none]
  · exact rows_ofRows sizes some

/-- A table whose data fill its rows is the table of these rows. -/
theorem ofRows_rows (filled : t.columnCount ∣ t.data.size) : ofRows t.columnCount t.rows = t := by
  obtain ⟨rows, whole, sizes, noColumns⟩ := exists_eq_ofRows filled
  have listed : t.rows = rows := by
    rw [whole]
    exact rows_ofRows_of_noColumns sizes noColumns
  rw [listed]
  exact whole.symm

/-- A row that is listed lies within the data. -/
theorem getElem?_rows {i : Nat} {row : Array α} (h : t.rows[i]? = some row) :
    0 < t.columnCount ∧ (i + 1) * t.columnCount ≤ t.data.size ∧
      t.data.extract (i * t.columnCount) ((i + 1) * t.columnCount) = row := by
  obtain ⟨inside, rfl⟩ := List.getElem?_eq_some_iff.mp h
  rw [Table.rows, List.length_map, List.length_range] at inside
  have some : 0 < t.columnCount := by
    by_contra none
    rw [rowCount, if_pos (by omega)] at inside
    exact absurd inside (Nat.not_lt_zero i)
  rw [rowCount, if_neg (Nat.ne_of_gt some)] at inside
  refine ⟨some, ?_, by simp [Table.rows]⟩
  calc (i + 1) * t.columnCount ≤ t.data.size / t.columnCount * t.columnCount :=
        Nat.mul_le_mul_right _ inside
    _ ≤ t.data.size := Nat.div_mul_le_self _ _

theorem size_of_mem_rows {row : Array α} (listed : row ∈ t.rows) : row.size = t.columnCount := by
  obtain ⟨i, hi⟩ := List.mem_iff_getElem?.mp listed
  obtain ⟨-, inside, rfl⟩ := getElem?_rows hi
  rw [Array.size_extract, Nat.min_eq_left inside, Nat.succ_mul, Nat.add_sub_cancel_left]

/-- A number of elements that a machine can hold is one of 64 bits. -/
theorem lt_sizeLimit_of_held {n : Nat} (held : n * elementSize < byteLimit) : n < sizeLimit := by
  simp only [elementSize, byteLimit, sizeLimit] at *
  omega

/-- Within the data no bound of a row overflows. -/
theorem Sound.row_eq_slice (h : t.Sound) {i : Nat} (some : 0 < t.columnCount)
    (inside : (i + 1) * t.columnCount ≤ t.data.size) (overflow : Overflow) :
    t.row overflow i = slice t.data (i * t.columnCount) ((i + 1) * t.columnCount) := by
  have small := lt_sizeLimit_of_held h.held
  have number : i + 1 ≤ (i + 1) * t.columnCount := Nat.le_mul_of_pos_right _ some
  exact Table.row_eq_slice (by omega) (by omega) overflow

theorem Sound.row_eq (h : t.Sound) {i : Nat} {row : Array α} (listed : t.rows[i]? = some row)
    (overflow : Overflow) : t.row overflow i = .ok row := by
  obtain ⟨some, inside, cells⟩ := getElem?_rows listed
  rw [h.row_eq_slice some inside, slice_eq_ok]
  exact ⟨Nat.mul_le_mul_right _ (Nat.le_succ i), inside, cells⟩

/-- Rows of the right width that make up the data are those that the table stands for. -/
theorem Sound.lists (h : t.Sound) {rows : List (Array α)}
    (sizes : ∀ row ∈ rows, row.size = t.columnCount) (noColumns : t.columnCount = 0 → rows = [])
    (data : t.data = (rows.map Array.toList).flatten.toArray) : t.Lists ⟨t.columnCount, rows⟩ := by
  have listed : t.rows = rows := by
    have whole : t = ofRows t.columnCount rows := by rw [ofRows, ← data]
    conv_lhs => rw [whole]
    exact rows_ofRows_of_noColumns sizes noColumns
  refine ⟨rfl, h.filled, sizes, noColumns, data, listed, ?_, ?_⟩
  · rw [← listed, Table.rows, List.length_map, List.length_range]
  · intro overflow i row hrow
    exact h.row_eq (listed.symm ▸ hrow) overflow

theorem Sound.lists_rows (h : t.Sound) : t.Lists ⟨t.columnCount, t.rows⟩ :=
  h.lists (fun _ => size_of_mem_rows) rows_of_columnCount_eq_zero
    (congrArg Table.data (ofRows_rows h.filled).symm)

/-- What a table stands for determines it. -/
theorem Lists.eq_iff {t' : Table α} {l l' : Listing α} (h : t.Lists l) (h' : t'.Lists l') :
    t = t' ↔ l.columnCount = l'.columnCount ∧ l.rows = l'.rows := by
  constructor
  · rintro rfl
    exact ⟨h.columns.symm.trans h'.columns, h.listed.symm.trans h'.listed⟩
  · rintro ⟨columns, rows⟩
    cases t
    cases t'
    obtain rfl := h.columns.trans (columns.trans h'.columns.symm)
    obtain rfl := h.data.trans (rows ▸ h'.data.symm)
    rfl

end Reading

section Changing

variable {t t' other other' : Table α} {grants : Nat → Bool}

theorem sound_empty (columns : Nat) : (Table.empty columns : Table α).Sound where
  filled := Nat.dvd_zero _
  held := by simp [Table.empty, byteLimit]

theorem sound_ofData {columns : Nat} {data : Array α} (held : data.size * elementSize < byteLimit)
    (made : ofData columns data = .ok t) : t.Sound := by
  unfold ofData at made
  split at made
  case isTrue fits =>
    obtain rfl := Except.ok.inj made
    refine ⟨?_, held⟩
    rcases fits with none | ⟨-, whole⟩
    · rw [Array.isEmpty_iff] at none
      rw [none]
      exact Nat.dvd_zero _
    · exact Nat.dvd_of_mod_eq_zero whole
  case isFalse => cases made

/-- Room is granted only up to what a machine can hold. -/
theorem held_of_reserveRows {rows : Nat} (granted : t.reserveRows (.machine grants) rows = .ok ()) :
    (t.data.size + rows * t.columnCount) * elementSize < byteLimit := by
  by_contra full
  simp only [reserveRows] at granted
  split_ifs at granted
  exact full (Nat.not_le.mp ‹_›)

theorem pushRow_eq_ok {memory : Memory} {row : Array α} :
    t.pushRow memory row = .ok t' ↔
      row.size = t.columnCount ∧ t.reserveRows memory 1 = .ok () ∧
        t' = { t with data := t.data ++ row } := by
  unfold pushRow
  split
  case isTrue size =>
    simp only [size, true_and, bind_eq_ok, pure_eq_ok, Except.ok.injEq]
    constructor
    · rintro ⟨_, granted, rfl⟩
      exact ⟨granted, rfl⟩
    · rintro ⟨granted, rfl⟩
      exact ⟨(), granted, rfl⟩
  case isFalse size => exact ⟨nofun, fun h => absurd h.1 size⟩

theorem append_eq_ok {memory : Memory} :
    t.append memory other = .ok (t', other') ↔
      (other.isEmpty ∨ other.columnCount = t.columnCount) ∧
        t.reserveRows memory other.rowCount = .ok () ∧
        t' = { t with data := t.data ++ other.data } ∧ other' = .empty other.columnCount := by
  unfold append
  split
  case isTrue fits =>
    simp only [fits, true_and, bind_eq_ok, pure_eq_ok, Except.ok.injEq, Prod.mk.injEq]
    constructor
    · rintro ⟨_, granted, rfl, rfl⟩
      exact ⟨granted, rfl, rfl⟩
    · rintro ⟨granted, rfl, rfl⟩
      exact ⟨(), granted, rfl, rfl⟩
  case isFalse fits => exact ⟨nofun, fun h => absurd h.1 fits⟩

theorem Sound.pushRow (h : t.Sound) {row : Array α}
    (pushed : t.pushRow (.machine grants) row = .ok t') : t'.Sound := by
  obtain ⟨size, granted, rfl⟩ := pushRow_eq_ok.mp pushed
  have held := held_of_reserveRows granted
  constructor
  · rw [Array.size_append, size]
    exact Nat.dvd_add h.filled (Nat.dvd_refl _)
  · rw [Array.size_append, size]
    rwa [Nat.one_mul] at held

/-- The rows of a table of the same width, or of an empty one, take as much room as its data. -/
theorem Sound.rowCount_mul (h : other.Sound)
    (fits : other.isEmpty ∨ other.columnCount = t.columnCount) :
    t.columnCount ∣ other.data.size ∧ other.rowCount * t.columnCount = other.data.size := by
  rcases fits with empty | same
  · rw [Table.isEmpty, Array.isEmpty_iff] at empty
    simp [rowCount, empty]
  · rw [← same]
    refine ⟨h.filled, ?_⟩
    rcases Nat.eq_zero_or_pos other.columnCount with none | some
    · have := h.filled
      rw [none, Nat.zero_dvd] at this
      rw [this, none, Nat.mul_zero]
    · rw [rowCount, if_neg (Nat.ne_of_gt some), Nat.div_mul_cancel h.filled]

theorem Sound.append (h : t.Sound) (hother : other.Sound)
    (appended : t.append (.machine grants) other = .ok (t', other')) : t'.Sound ∧ other'.Sound := by
  obtain ⟨fits, granted, rfl, rfl⟩ := append_eq_ok.mp appended
  obtain ⟨filled, room⟩ := hother.rowCount_mul fits
  have held := held_of_reserveRows granted
  rw [room] at held
  refine ⟨⟨?_, ?_⟩, sound_empty _⟩
  · rw [Array.size_append]
    exact Nat.dvd_add h.filled filled
  · rw [Array.size_append]
    exact held

end Changing

section Listing

variable {t t' other other' : Table α} {l m : Listing α} {memory : Memory}

theorem Lists.isEmpty_iff (h : t.Lists l) : t.isEmpty ↔ l.rows = [] := by
  constructor
  · intro empty
    rw [Table.isEmpty, Array.isEmpty_iff] at empty
    rw [← List.length_eq_zero_iff, ← h.counted]
    simp [rowCount, empty]
  · intro none
    rw [Table.isEmpty, h.data, none]
    rfl

theorem lists_empty (columns : Nat) : (Table.empty columns : Table α).Lists ⟨columns, []⟩ :=
  (sound_empty columns).lists (by simp) (fun _ => rfl) rfl

theorem Lists.pushRow (h : t.Lists l) (some : 0 < l.columnCount) {row : Array α}
    (pushed : t.pushRow memory row = .ok t') (sound : t'.Sound) :
    t'.Lists ⟨l.columnCount, l.rows ++ [row]⟩ := by
  obtain ⟨size, -, rfl⟩ := pushRow_eq_ok.mp pushed
  have lists : Lists _ ⟨_, l.rows ++ [row]⟩ := sound.lists ?_ ?_ ?_
  · rwa [← h.columns]
  · intro r hr
    rcases List.mem_append.mp hr with hr | hr
    · exact (h.sizes r hr).trans h.columns.symm
    · rw [List.mem_singleton.mp hr, size]
  · intro none
    rw [← h.columns] at some
    exact absurd none (Nat.ne_of_gt some)
  · simp [h.data]

theorem Lists.append (h : t.Lists l) (hother : other.Lists m)
    (appended : t.append memory other = .ok (t', other')) (sound : t'.Sound) :
    t'.Lists ⟨l.columnCount, l.rows ++ m.rows⟩ ∧ other'.Lists ⟨m.columnCount, []⟩ := by
  obtain ⟨fits, -, rfl, rfl⟩ := append_eq_ok.mp appended
  rw [hother.isEmpty_iff, hother.columns, h.columns] at fits
  refine ⟨?_, hother.columns ▸ lists_empty _⟩
  have lists : Lists _ ⟨_, l.rows ++ m.rows⟩ := sound.lists ?_ ?_ ?_
  · rwa [← h.columns]
  · intro r hr
    rcases List.mem_append.mp hr with hr | hr
    · exact (h.sizes r hr).trans h.columns.symm
    · rcases fits with none | same
      · rw [none] at hr
        cases hr
      · exact (hother.sizes r hr).trans (same.trans h.columns.symm)
  · intro none
    replace none : l.columnCount = 0 := h.columns.symm.trans none
    rw [h.noColumns none, List.nil_append]
    rcases fits with empty | same
    · exact empty
    · exact hother.noColumns (same.trans none)
  · simp [h.data, hother.data]

end Listing

/-- The data that a step brings along are in memory already. -/
def Step.Held : Step α → Prop
  | .ofData _ _ data => data.size * elementSize < byteLimit
  | _ => True

namespace Store

variable {s : Store α} {grants : Nat → Bool}

def Sound (s : Store α) : Prop := ∀ name, (s.get name).Sound

theorem sound_get_empty : (Store.empty : Store α).Sound := fun _ => sound_empty 0

theorem Sound.put (h : s.Sound) {t : Table α} (ht : t.Sound) (name : String) :
    (s.put name t).Sound := by
  intro other
  by_cases same : other = name
  · rw [same, get_put_self]
    exact ht
  · rw [get_put_of_ne same]
    exact h other

/-- A store shows the lists of rows that its tables stand for. -/
def Shows (s : Store α) (shelf : String → Listing α) : Prop := ∀ name, (s.get name).Lists (shelf name)

theorem Shows.put {shelf : String → Listing α} (h : s.Shows shelf) {t : Table α} {l : Listing α}
    (ht : t.Lists l) (name : String) : (s.put name t).Shows (Function.update shelf name l) := by
  intro other
  by_cases same : other = name
  · rw [same, get_put_self, Function.update_self]
    exact ht
  · rw [get_put_of_ne same, Function.update_of_ne same]
    exact h other

theorem Sound.change (h : s.Sound) {made : Except Error (Table α)}
    (sound : ∀ t, made = .ok t → t.Sound) (name : String) : (s.change name made).1.Sound := by
  cases made with
  | ok t => exact h.put (sound t rfl) name
  | error e => exact h

theorem change_failed {name : String} {made : Except Error (Table α)} {e : Error}
    (failed : (s.change name made).2 = .failed e) : (s.change name made).1 = s := by
  cases made with
  | ok t => cases failed
  | error e => rfl

variable [DecidableEq α]

/-- The store that some steps lead to. -/
def run (memory : Memory) (steps : List (Step α)) : Store α :=
  steps.foldl (fun s step => (s.step memory step).1) .empty

theorem Sound.step (h : s.Sound) {step : Step α} (held : step.Held) :
    (s.step (.machine grants) step).1.Sound := by
  cases step with
  | new name columns =>
    refine h.change ?_ name
    rintro t ⟨⟩
    exact sound_empty columns
  | ofData name columns data => exact h.change (fun t made => sound_ofData held made) name
  | pushRow name row => exact h.change (fun t pushed => (h name).pushRow pushed) name
  | append name source =>
    cases appended : (s.get name).append (.machine grants) (s.get source) with
    | ok made =>
      obtain ⟨sound, sound'⟩ := (h name).append (h source) appended
      simp only [Store.step, appended]
      exact (h.put sound' source).put sound name
    | error e =>
      simp only [Store.step, appended]
      exact h
  | reserveRows name rows =>
    rw [Store.step]
    split
    · exact h
    · exact h
  | row name i =>
    rw [Store.step]
    split
    · exact h
    · exact h
  | rows name => exact h
  | equal name other => exact h

theorem Sound.run {steps : List (Step α)} (held : ∀ step ∈ steps, step.Held) :
    (run (.machine grants) steps).Sound := by
  suffices from_sound : ∀ s : Store α, s.Sound →
      (steps.foldl (fun s step => (s.step (.machine grants) step).1) s).Sound from
    from_sound .empty sound_get_empty
  induction steps with
  | nil => exact fun s h => h
  | cons step steps ih =>
    intro s h
    exact ih (fun later hlater => held later (List.mem_cons_of_mem step hlater)) _
      (h.step (held step List.mem_cons_self))

theorem fst_step_reserveRows {memory : Memory} (name : String) (rows : Nat) :
    (s.step memory (.reserveRows name rows)).1 = s := by
  rw [Store.step]
  split
  · rfl
  · rfl

/-- Whatever the reason that a step fails for, it changes nothing. -/
theorem step_failed {memory : Memory} {step : Step α} {e : Error}
    (failed : (s.step memory step).2 = .failed e) : (s.step memory step).1 = s := by
  cases step with
  | new name columns => exact change_failed failed
  | ofData name columns data => exact change_failed failed
  | pushRow name row => exact change_failed failed
  | append name source =>
    simp only [Store.step] at failed ⊢
    split at failed
    · cases failed
    · rfl
  | reserveRows name rows => exact fst_step_reserveRows name rows
  | row name i =>
    rw [Store.step]
    split
    · rfl
    · rfl
  | rows name => rfl
  | equal name other => rfl

section Steps

variable {shelf : String → Listing α}

theorem Shows.pushRow (sound : s.Sound) (h : s.Shows shelf) {name : String} {row : Array α}
    (some : 0 < (shelf name).columnCount) (size : row.size = (shelf name).columnCount)
    (granted : (s.get name).reserveRows (.machine grants) 1 = .ok ()) :
    (s.step (.machine grants) (.pushRow name row)).1.Shows
      (Function.update shelf name ⟨(shelf name).columnCount, (shelf name).rows ++ [row]⟩) := by
  have pushed : (s.get name).pushRow (.machine grants) row = .ok _ :=
    pushRow_eq_ok.mpr ⟨size.trans (h name).columns.symm, granted, rfl⟩
  rw [Store.step, pushed]
  exact h.put ((h name).pushRow some pushed ((sound name).pushRow pushed)) name

/-- A row without cells leaves no trace in a table without columns. -/
theorem Shows.pushRow_noColumns (h : s.Shows shelf) {memory : Memory} {name : String} {row : Array α}
    (none : (shelf name).columnCount = 0) : (s.step memory (.pushRow name row)).1.Shows shelf := by
  cases pushed : (s.get name).pushRow memory row with
  | error e =>
    rw [Store.step, pushed]
    exact h
  | ok t =>
    obtain ⟨size, -, rfl⟩ := pushRow_eq_ok.mp pushed
    have same : ({ s.get name with data := (s.get name).data ++ row } : Table α) = s.get name := by
      rw [(h name).columns, none] at size
      rw [Array.eq_empty_of_size_eq_zero size, Array.append_empty]
    rw [Store.step, pushed, same]
    have shown := h.put (h name) name
    rwa [Function.update_eq_self] at shown

theorem Shows.append (sound : s.Sound) (h : s.Shows shelf) {name source : String}
    (fits : (shelf source).rows = [] ∨ (shelf source).columnCount = (shelf name).columnCount)
    (granted : (s.get name).reserveRows (.machine grants) (shelf source).rows.length = .ok ()) :
    (s.step (.machine grants) (.append name source)).1.Shows
      (Function.update (Function.update shelf source ⟨(shelf source).columnCount, []⟩) name
        ⟨(shelf name).columnCount, (shelf name).rows ++ (shelf source).rows⟩) := by
  have appended : (s.get name).append (.machine grants) (s.get source) = .ok _ :=
    append_eq_ok.mpr ⟨by rwa [(h source).isEmpty_iff, (h source).columns, (h name).columns],
      by rwa [(h source).counted], rfl, rfl⟩
  obtain ⟨lists, lists'⟩ :=
    (h name).append (h source) appended ((sound name).append (sound source) appended).1
  simp only [Store.step, appended]
  exact (h.put lists' source).put lists name

end Steps

/-- At all times every table of a store stands for a list of rows: it is filled by them, and reading
it gives the rows, their number and each single one. Pushing and appending add to the end of the list
as soon as there is room, and appending leaves the other table empty; asking for room changes nothing,
nor does a step that fails. Two tables are equal exactly if they have as many columns and the same
rows. -/
theorem run_shows_rows (grants : Nat → Bool) {steps : List (Step α)}
    (held : ∀ step ∈ steps, step.Held) :
    let memory := Memory.machine grants
    let s := run memory steps
    ∃ shelf : String → Listing α, s.Shows shelf ∧
      (∀ name row, 0 < (shelf name).columnCount → row.size = (shelf name).columnCount →
        (s.get name).reserveRows memory 1 = .ok () →
        (s.step memory (.pushRow name row)).1.Shows (Function.update shelf name
          ⟨(shelf name).columnCount, (shelf name).rows ++ [row]⟩)) ∧
      (∀ name row, (shelf name).columnCount = 0 →
        (s.step memory (.pushRow name row)).1.Shows shelf) ∧
      (∀ name source,
        ((shelf source).rows = [] ∨ (shelf source).columnCount = (shelf name).columnCount) →
        (s.get name).reserveRows memory (shelf source).rows.length = .ok () →
        (s.step memory (.append name source)).1.Shows (Function.update
          (Function.update shelf source ⟨(shelf source).columnCount, []⟩) name
          ⟨(shelf name).columnCount, (shelf name).rows ++ (shelf source).rows⟩)) ∧
      (∀ name rows, (s.step memory (.reserveRows name rows)).1 = s) ∧
      (∀ step e, (s.step memory step).2 = .failed e → (s.step memory step).1 = s) ∧
      ∀ name other, (s.step memory (.equal name other)).2 = .equal true ↔
        (shelf name).columnCount = (shelf other).columnCount ∧
          (shelf name).rows = (shelf other).rows := by
  have sound : (run (.machine grants) steps).Sound := Sound.run held
  have shows : (run (.machine grants) steps).Shows fun name =>
      ⟨((run (.machine grants) steps).get name).columnCount,
        ((run (.machine grants) steps).get name).rows⟩ := fun name => (sound name).lists_rows
  refine ⟨_, shows, ?_, ?_, ?_, fst_step_reserveRows, fun step e => step_failed, ?_⟩
  · intro name row some size granted
    exact shows.pushRow sound some size granted
  · intro name row none
    exact shows.pushRow_noColumns none
  · intro name source fits granted
    exact shows.append sound fits granted
  · intro name other
    rw [← (shows name).eq_iff (shows other)]
    simp [Store.step]

/-- Two tables made in different ways, one of them moved behind the other; and a table without
columns, in which rows leave no trace. -/
theorem run_shows_rows_appended : ∃ shelf : String → Listing Nat,
    (run (.machine fun _ => true) [.new "found" 2, .pushRow "found" #[3, 4],
      .ofData "more" 2 #[0, 1, 1, 0], .append "found" "more", .new "blank" 0,
      .pushRow "blank" #[]]).Shows shelf ∧
    (shelf "found").rows = [#[3, 4], #[0, 1], #[1, 0]] ∧ (shelf "more").rows = [] ∧
    (shelf "more").columnCount = 2 ∧ (shelf "blank").rows = [] := by
  obtain ⟨shelf, shows, -⟩ := run_shows_rows (fun _ => true)
    (show ∀ step ∈ ([.new "found" 2, .pushRow "found" #[3, 4], .ofData "more" 2 #[0, 1, 1, 0],
      .append "found" "more", .new "blank" 0, .pushRow "blank" #[]] : List (Step Nat)), step.Held by
      simp [Step.Held, elementSize, byteLimit])
  refine ⟨shelf, shows, ?_, ?_, ?_, ?_⟩
  · rw [← (shows "found").listed]
    cbv
  · rw [← (shows "more").listed]
    cbv
  · rw [← (shows "more").columns]
    cbv
  · rw [← (shows "blank").listed]
    cbv

end Store

end Motif.Table
