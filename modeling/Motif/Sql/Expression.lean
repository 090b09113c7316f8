import Motif.Database.Cell

/-!
Expressions and queries as they are written. An expression may hold queries, so it is told over
the type of these; a query is told over the type of the expressions in it.
-/

set_option autoImplicit false

namespace Motif.Sql

/-- A constant as it is written: whether an integer fits is decided where it is used. -/
inductive Literal where
  | null
  | integer (digits : String)
  | real (digits : String)
  | string (bytes : List Nat)
  | blob (bytes : List Nat)
deriving DecidableEq

/-- A column, with its table in front if that is said. A name in double quotes that is none of a
column is a text. -/
structure Name where
  path : List String
  column : String
  mayBeText : Bool
  /-- Quoted words are no constants. -/
  isQuoted : Bool
deriving DecidableEq

def Name.text (n : Name) : String := ".".intercalate (n.path ++ [n.column])

inductive Arithmetic where
  | add
  | subtract
  | multiply
  | divide
  | remainder
  | bitAnd
  | bitOr
  | shiftLeft
  | shiftRight
  | join
deriving DecidableEq

/-- The last two take null for a value of its own. -/
inductive Comparison where
  | equal
  | different
  | less
  | atMost
  | greater
  | atLeast
  | same
  | distinct
deriving DecidableEq

/-- A key to sort by. -/
structure Order (ε : Type) where
  key : ε
  descending : Bool
  nullsFirst : Option Bool

/-- Where the rows begin or end that are looked at for a row. -/
inductive Edge (ε : Type) where
  | unbounded
  | before (distance : ε)
  | current
  | after (distance : ε)

/-- How the distance of rows is told: by how many rows or groups of equal rows are between them, or
by the values that they are sorted by. -/
inductive Spacing where
  | rows
  | groups
  | range
deriving DecidableEq

/-- Which rows are left out around a row. -/
inductive Exclusion where
  | none
  | current
  | group
  | ties
deriving DecidableEq

/-- The rows that are looked at for a row. -/
structure Frame (ε : Type) where
  spacing : Spacing
  first : Edge ε
  last : Edge ε
  exclusion : Exclusion

/-- Rows that belong together, in order, and which of them are looked at for each. -/
structure Window (ε : Type) where
  base : Option String
  parts : List ε
  order : List (Order ε)
  frame : Option (Frame ε)

/-- The window of a call. -/
inductive Over (ε : Type) where
  | name (window : String)
  | own (window : Window ε)

/-- A call without a list of arguments is for whole rows. One with a window is told from others by
its place in the statement. -/
inductive Expr (κ : Type) where
  | literal (value : Literal)
  | name (n : Name)
  | parameter
  | positive (e : Expr κ)
  | negative (e : Expr κ)
  | complement (e : Expr κ)
  | not (e : Expr κ)
  | and (a b : Expr κ)
  | or (a b : Expr κ)
  | isNull (e : Expr κ)
  | notNull (e : Expr κ)
  | between (e low high : Expr κ)
  | arithmetic (op : Arithmetic) (a b : Expr κ)
  | compare (op : Comparison) (a b : Expr κ)
  | among (e : Expr κ) (list : List (Expr κ))
  | amongRows (e : Expr κ) (q : κ)
  | exists (q : κ)
  | scalar (q : κ)
  | choice (branches : List (Expr κ × Expr κ)) (other : Expr κ)
  | cast (e : Expr κ) (type : String)
  | collate (e : Expr κ) (collation : String)
  | call (function : String) (distinct : Bool) (arguments : Option (List (Expr κ)))
      (filter : Option (Expr κ)) (over? : Option (Over (Expr κ) × Nat))
  | row (fields : List (Expr κ))
  | raise

/-- A column of a result. An expression is given with the way it is written. -/
inductive Shown (ε : Type) where
  | all
  | allOf (table : String)
  | one (e : ε) (label : Option String) (written : String)

/-- Whether the rows of a table may be, or have to be, read by an index. -/
inductive IndexUse where
  | free
  | never
  | by (name : String)
deriving DecidableEq

/-- Where rows come from. A join in parentheses is a query for all columns of its tables, which keep
their names. -/
inductive Origin (ε κ : Type) where
  | table (database : Option String) (name : String) (use : IndexUse)
  | call (database : Option String) (function : String) (arguments : List ε)
  | query (q : κ)
  | join (q : κ)

/-- A table of a join: how it is joined to those in front of it. -/
structure Item (ε κ : Type) where
  origin : Origin ε κ
  label : Option String
  isNatural : Bool
  keepsLeft : Bool
  isFixed : Bool
  on : Option ε
  common : Option (List String)

structure Core (ε κ : Type) where
  isDistinct : Bool
  shown : List (Shown ε)
  items : List (Item ε κ)
  condition : Option ε
  groups : List ε
  having : Option ε
  windows : List (String × Window ε)

inductive Branch (ε κ : Type) where
  | select (c : Core ε κ)
  | values (rows : List (List ε))

/-- How the rows of two queries are put together. -/
inductive Compound where
  | union
  | unionAll
  | except
  | intersect
deriving DecidableEq

def Compound.text : Compound → String
  | .union => "UNION"
  | .unionAll => "UNION ALL"
  | .except => "EXCEPT"
  | .intersect => "INTERSECT"

/-- A query with a name, for use in another. It may be said that its rows are to be kept, or that they
are not. -/
structure Common (κ : Type) where
  name : String
  columns : List String
  query : κ
  isKept : Option Bool

structure Body (ε κ : Type) where
  commons : List (Common κ)
  first : Branch ε κ
  others : List (Compound × Branch ε κ)
  order : List (Order ε)
  limit : Option ε
  offset : Option ε

inductive Query where
  | of (body : Body (Expr Query) Query)

abbrev Term := Expr Query

def Query.mapLimit (f : Option Term → Option Term) : Query → Query
  | .of body => .of { body with limit := f body.limit }

def Query.someLimit (bound : Term) : Term :=
  .compare .different bound (.cast (.literal (.integer "0")) "numeric")

def Query.first (q : Query) : Query :=
  q.mapLimit fun bound? => some ((bound?.map someLimit).getD (.literal (.integer "1")))

def Query.any (q : Query) : Query := q.mapLimit (Option.map someLimit)

def Query.whole (items : List (Item Term Query)) : Query :=
  .of ⟨[], .select ⟨false, [.all], items, none, [], none, []⟩, [], [], none, none⟩

end Motif.Sql
