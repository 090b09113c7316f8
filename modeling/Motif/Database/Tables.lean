import Motif.Database.Cell
import Motif.Graph.Basic

/-!
Edges in a database: the columns `src` and `dst` of the table `edges`, row after row. Tables and
columns are found whatever the case of their names; other tables and columns are ignored.
-/

set_option autoImplicit false

namespace Motif.Database

structure Table where
  name : String
  columns : List String
  rows : List (List Cell)
deriving DecidableEq

namespace Table

def column (t : Table) (name : String) : Except Error Nat :=
  match t.columns.findIdx? (sameName name) with
  | some i => .ok i
  | none => .error (.query (.noSuchColumn name))

def id (t : Table) (row : List Cell) (column index : Nat) : Except Error Int :=
  idIn index (t.columns[column]?.getD "") (row[column]?.getD .null).held

def edges (t : Table) : Except Error (List Edge) := do
  let src ← t.column "src"
  let dst ← t.column "dst"
  t.rows.mapM fun row => do
    let u ← t.id row src 0
    let v ← t.id row dst 1
    return (u, v)

end Table

def readTables (tables : List Table) : Except Error (List Edge) :=
  match tables.find? fun t => sameName t.name "edges" with
  | some t => t.edges
  | none => .error (.query (.noSuchTable "edges"))

def readEdges (tables : List Table) : Except Motif.Error (List Edge) :=
  (readTables tables).mapError .database

end Motif.Database
