import Motif.Database.Direction
import Motif.Database.Logarithm
import Motif.Database.Track

/-!
Relations: what rows can be read from. They are tables, functions, or queries; a query is told by its
blocks, so that it can be worked out together with the one that it stands in.
-/

set_option autoImplicit false

namespace Motif.Database

open Sql

/-- Whether the rows of a table may be, or have to be, read on a track. -/
inductive TrackUse where
  | free
  | never
  | by (track : Nat)
deriving DecidableEq

/-- A table of a join: how it is joined to those in front of it. -/
structure Leaf (ρ : Type) where
  relation : ρ
  /-- Where no row fits, one that is missing takes its place. -/
  keepsLeft : Bool
  /-- It stays behind the tables in front of it. -/
  isFixed : Bool
  use : TrackUse
  arguments : List Meaning
  columns : List Nat

/-- A condition on the rows of a join. One that tells which rows of a table fit, where one may be
missing, has its home there. -/
structure Test where
  meaning : Meaning
  home? : Option Nat

/-- A column of a result: its name, what it means, and the table that it is taken from if all columns
of that are. -/
structure Output where
  name : String
  label : Option String
  meaning : Meaning
  home : Option (String × String)

/-- What a query selects: rows of its tables side by side, as far as they pass the tests, one by one or
in groups. -/
structure Block (ρ : Type) where
  leaves : List (Leaf ρ)
  tests : List Test
  outputs : List Output
  isDistinct : Bool
  isGrouped : Bool
  groups : List (Meaning × Direction)
  having : List Meaning
  order : List (Meaning × Direction)
  /-- The order has come from a query in it. -/
  isMoved : Bool
  limit? : Option Meaning
  offset? : Option Meaning
  /-- Its result has more than columns and what is put together by operators. -/
  isComplex : Bool

/-- What can be read from a relation: how many rows are expected, and the rows. -/
structure Answer where
  expected : Logarithm
  rows : Surroundings → Flow Row

/-- A relation. Its cells are worked out when they are asked for. -/
structure Relation where
  fields : List Field
  hasNumbers : Bool
  reads : List Read
  stored? : Option Stored
  given? : Option (List Cell → Flow Row)
  /-- The blocks whose rows are its own, one behind the other, if it is made of such. A bound of all
  rows is that of the last block. -/
  blocks : List (Block Relation)
  /-- It is worked out by itself. -/
  isKept : Bool
  /-- Its rows change while a query is worked out. -/
  isFleeting : Bool
  /-- The work of reading all of it, if it is a module that reads it, and how many rows it expects. -/
  work? : Option (Logarithm × Logarithm)
  /-- What it gives, where rows that do not pass some tests of its columns may be left out. -/
  answer : List Meaning → Except Error Answer

namespace Relation

def plainRows : Logarithm := 200

def ofRows (fields : List Field) (rows : Flow Row) : Relation :=
  ⟨fields, true, [], none, none, [], false, false, none, fun _ => .ok ⟨plainRows, fun _ => rows⟩⟩

def moduleRows : Logarithm := 46

def ofModule (fields : List Field) (work : Nat) (rows : Flow Row) : Relation :=
  { ofRows fields rows with work? := some (logarithm work, moduleRows) }

def rows (r : Relation) : Flow Row := .ofExcept ((r.answer []).map fun answer => answer.rows [])

def content (r : Relation) : Flow (List Cell) := r.rows.mapM (Row.cells r.fields.length)

def uncounted (r : Relation) : Relation :=
  { r with answer := fun tests => (r.answer tests).map fun a => { a with expected := plainRows } }

def rename (names : List String) (r : Relation) : Relation :=
  { r with fields := r.fields.zipIdx.map fun (f, i) => { f with name := names[i]?.getD f.name } }

def settle (r : Relation) : Relation :=
  { r with fields := r.fields.map fun f => { f with home := none } }

end Relation

end Motif.Database
