import Motif.Database.Relation
import Motif.Sql.Function
import Motif.Sql.Json.Node

/-!
The values of a tree as rows. The tree is an argument, and so may be the path to the value at which
the rows begin.
-/

set_option autoImplicit false

namespace Motif.Database

open Sql

/-- A function whose values are rows. -/
structure TableFunction where
  fields : List Field
  most : Nat
  rows : List Cell → Flow Row

def TableFunction.relation (f : TableFunction) : Relation :=
  { Relation.ofRows f.fields (.ofList []) with given? := some f.rows }

namespace TableFunction

def treeFields : List Field :=
  let shown := ["key", "value", "type", "atom", "id", "parent", "fullkey", "path"]
  (shown.map fun name => .plain name (some .blob) none) ++
    ["json", "root"].map fun name => { Field.plain name (some .blob) none with isHidden := true }

def nodeRow (arguments : List Cell) (number : Nat) (node : Json.Node) : Row :=
  let isAtom : Bool := match node.value with
    | .atom _ => true
    | _ => false
  let root : Cell := arguments[1]?.getD (.ofText "$")
  let path := if node.path.isEmpty then node.step else node.path
  let cells : List Cell :=
    [node.key, node.value.cell, .ofText node.value.typeName,
      if isAtom then node.value.cell else .null, .integer node.number,
      (node.parent.map fun n => Cell.integer n).getD .null, .text (node.path ++ node.step),
      .text path, arguments.headD .null, root]
  { Row.ofCells cells with number := .ok (.integer number) }

def treeRows (isDeep : Bool) (arguments : List Cell) : Except Flaw (List Row) := do
  match ← Function.tree? (arguments.headD .null), arguments.drop 1 with
  | none, _ => return []
  | some j, [] => return rowsFrom j 0
  | some j, path :: _ =>
    match ← Function.atPath j path with
    | none => return []
    | some _ =>
      let steps := (path.bytes.takeWhile (· ≠ 0)).drop 1
      return ((j.numberAt? steps.length steps).map (rowsFrom j)).getD []
where
  rowsFrom (j : Json) (start : Nat) : List Row :=
    (j.walk isDeep start).zipIdx.map fun (node, i) => nodeRow arguments i node

def trees (isDeep : Bool) : TableFunction where
  fields := treeFields
  most := 2
  rows arguments :=
    match treeRows isDeep arguments with
    | .ok rows => .ofList rows
    | .error flaw => .fail (.query flaw)

def named? (name : String) : Option TableFunction :=
  match Token.lower name with
  | "json_each" => some (trees false)
  | "json_tree" => some (trees true)
  | _ => none

end TableFunction

end Motif.Database
