import Motif.Table

/-!
Tables by name, changed and asked one step at a time. A step that fails leaves every table as it
was.
-/

set_option autoImplicit false

namespace Motif.Table

structure Store (α : Type) where
  tables : List (String × Table α)

inductive Step (α : Type) where
  | new (name : String) (columns : Nat)
  | ofData (name : String) (columns : Nat) (data : Array α)
  | pushRow (name : String) (row : Array α)
  | append (name source : String)
  | reserveRows (name : String) (rows : Nat)
  | row (name : String) (i : Nat)
  | rows (name : String)
  | equal (name other : String)

inductive Answer (α : Type) where
  | table (t : Table α)
  | appended (t source : Table α)
  | row (row : Array α)
  | rows (rows : List (Array α))
  | equal (same : Bool)
  | failed (e : Error)

namespace Store

variable {α : Type}

def empty : Store α := ⟨[]⟩

/-- The table of this name. A name not given yet stands for the table without columns. -/
def get (s : Store α) (name : String) : Table α := (s.tables.lookup name).getD (.empty 0)

def put (s : Store α) (name : String) (t : Table α) : Store α :=
  ⟨(name, t) :: s.tables.filter fun entry => entry.1 ≠ name⟩

theorem lookup_filter_ne {name other : String} (h : other ≠ name)
    (tables : List (String × Table α)) :
    (tables.filter fun entry => entry.1 ≠ name).lookup other = tables.lookup other := by
  induction tables with
  | nil => rfl
  | cons entry tables ih =>
    by_cases hn : entry.1 = name
    · rw [List.filter_cons_of_neg (by simp [hn]), ih, List.lookup_cons,
        beq_false_of_ne (hn ▸ h)]
    · rw [List.filter_cons_of_pos (by simp [hn]), List.lookup_cons, List.lookup_cons, ih]

@[simp] theorem get_put_self (s : Store α) (name : String) (t : Table α) :
    (s.put name t).get name = t := by
  simp [get, put]

theorem get_put_of_ne {name other : String} (h : other ≠ name) (s : Store α) (t : Table α) :
    (s.put name t).get other = s.get other := by
  simp only [get, put, List.lookup_cons, beq_false_of_ne h, lookup_filter_ne h]

/-- Stores the table that a step makes, if it makes one. -/
def change (s : Store α) (name : String) (made : Except Error (Table α)) : Store α × Answer α :=
  match made with
  | .ok t => (s.put name t, .table t)
  | .error e => (s, .failed e)

def step [DecidableEq α] (memory : Memory) (s : Store α) (request : Step α)
    (overflow : Overflow := .checked) : Store α × Answer α :=
  match request with
  | .new name columns => s.change name (.ok (.empty columns))
  | .ofData name columns data => s.change name (Table.ofData columns data)
  | .pushRow name row => s.change name ((s.get name).pushRow memory row)
  | .append name source =>
    match (s.get name).append memory (s.get source) with
    | .ok (t, emptied) => ((s.put source emptied).put name t, .appended t emptied)
    | .error e => (s, .failed e)
  | .reserveRows name rows =>
    match (s.get name).reserveRows memory rows with
    | .ok () => (s, .table (s.get name))
    | .error e => (s, .failed e)
  | .row name i =>
    match (s.get name).row overflow i with
    | .ok row => (s, .row row)
    | .error e => (s, .failed e)
  | .rows name => (s, .rows (s.get name).rows)
  | .equal name other => (s, .equal (decide (s.get name = s.get other)))

end Store

end Motif.Table
