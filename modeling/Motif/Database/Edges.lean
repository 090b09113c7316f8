import Motif.Database.Catalog
import Motif.Graph.Basic

/-!
The edges in the file of a database: the result of a query for the columns `src` and `dst` of what
goes by the name `edges`.
-/

set_option autoImplicit false

namespace Motif.Database

open Sql

def Catalog.columnQuery (columns : List String) (table : String) : Query :=
  let shown := columns.map fun name => (Shown.one (.name ⟨[], name, false, false⟩) none name : Shown Term)
  let item : Item Term Query := ⟨.table none table .free, none, false, false, false, none, none⟩
  .of ⟨[], .select ⟨false, shown, [item], none, [], none, []⟩, [], [], none, none⟩

def Relation.edgeAt (r : Relation) (row : Row) : Except Error Edge := do
  let name (place : Nat) : String := (r.fields[place]?.map Field.name).getD ""
  let src ← row.cell 0
  let dst ← row.cell 1
  return (← idIn 0 (name 0) src.held, ← idIn 1 (name 1) dst.held)

def Image.edges (im : Image) : Except Error (List Edge) := do
  let catalog : Catalog := ⟨im, ← im.schema, [], []⟩
  let query := Catalog.columnQuery ["src", "dst"] "edges"
  let r ← Catalog.openQuery Catalog.mostLevels catalog [] .known query
  let answer ← r.answer []
  let edges ← (answer.rows []).foldM (fun (edges : List Edge) row => do
    return (← r.edgeAt row) :: edges) []
  return edges.reverse

end Motif.Database
