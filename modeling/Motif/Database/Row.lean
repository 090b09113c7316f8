import Motif.Database.Flow
import Motif.Sql.Value

/-!
Rows under columns, whatever they come from. The cells of a row are worked out when they are asked
for.
-/

set_option autoImplicit false

namespace Motif.Database

open Sql

/-- A row: its cells by the places of their columns, and its number. -/
structure Row where
  cell : Nat → Except Error Cell
  number : Except Error Cell
  /-- It stands in for a row that a table does not have. -/
  isMissing : Bool

namespace Row

def missing : Row := ⟨fun _ => .ok .null, .ok .null, true⟩

def ofCells (cells : List Cell) : Row := ⟨fun i => .ok (cells[i]?.getD .null), .ok .null, false⟩

def cells (width : Nat) (r : Row) : Except Error (List Cell) := (List.range width).mapM r.cell

def settled (width : Nat) (r : Row) : Except Error Row := do return .ofCells (← r.cells width)

end Row

/-- The rows that an expression can speak of: one for each table of a query, and the same for the
queries around it. -/
abbrev Surroundings := List (List Row)

/-- A column of a relation. A hidden one has to be asked for by its name. Columns of a join in
parentheses have a home: the table that they are of, and their name there. -/
structure Field where
  name : String
  affinity : Option Affinity
  collation : Option String
  isHidden : Bool
  home : Option (String × String)
  /-- It is the number of the row. -/
  isNumber : Bool
  /-- It is never null. -/
  isFilled : Bool

def Field.plain (name : String) (affinity : Option Affinity) (collation : Option String) : Field :=
  ⟨name, affinity, collation, false, none, false, false⟩

/-- A column that an expression reads: of which query around it, of which table there, and which
column of that; the number of the row is none of the columns. -/
structure Read where
  depth : Nat
  table : Nat
  place : Option Nat
deriving DecidableEq

namespace Read

def cell (r : Read) (around : Surroundings) : Except Error Cell :=
  match around[r.depth]?.bind fun rows => rows[r.table]? with
  | none => .ok .null
  | some row =>
    match r.place with
    | some place => row.cell place
    | none => row.number

end Read

end Motif.Database
