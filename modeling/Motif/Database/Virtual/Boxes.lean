import Motif.Database.Record
import Motif.Database.Virtual.Module

/-!
Boxes: rows of numbers that are the bounds of intervals, kept in the nodes of a tree. Each node is
the content of a row of another table. Cells of the leaves are the rows, and cells above them
lead to nodes.
-/

set_option autoImplicit false

namespace Motif.Database.Virtual

open Sql

namespace Boxes

/-- Bounds are real numbers of 32 bits or integers. -/
inductive Bound where
  | real
  | integer
deriving DecidableEq

def Bound.type : Bound → String
  | .real => "REAL"
  | .integer => "INT"

def Bound.cell (b : Bound) (bytes : List Nat) : Cell :=
  match b with
  | .integer => .integer (Record.signed bytes)
  | .real =>
    let wide := (Float32.ofBits (UInt32.ofNat (Record.unsigned bytes))).toFloat
    if wide.isNaN then .null else .real wide.toBits.toNat

/-- The columns behind the number of a row: bounds, and others that are kept elsewhere. -/
structure Shape where
  number : String
  bounds : List String
  extras : List String

def firstToken (text : String) : String :=
  String.ofList (text.toList.take (Token.first text.toList).2)

def Shape.add (s : Shape) (argument : String) : Except ModuleFlaw Shape :=
  match argument.toList with
  | '+' :: rest => .ok { s with extras := s.extras ++ [firstToken (String.ofList rest)] }
  | _ =>
    if s.extras.isEmpty then .ok { s with bounds := s.bounds ++ [firstToken argument] }
    else .error .misplacedExtra

def Shape.ofArguments : List String → Except ModuleFlaw Shape
  | number :: rest =>
    if rest.length < 2 then .error .fewColumns
    else if 100 ≤ rest.length then .error .manyColumns
    else rest.foldlM Shape.add ⟨firstToken number, [], []⟩
  | [] => .error .fewColumns

def Shape.declaration (s : Shape) (b : Bound) : String :=
  let bounds := s.bounds.map fun name => s!"{name} {b.type}"
  let columns := ",".intercalate (s.number :: bounds ++ s.extras)
  s!"CREATE TABLE x({columns});"

def Shape.check (s : Shape) : Except ModuleFlaw Unit :=
  if s.bounds.length < 2 then .error .fewColumns
  else if 10 < s.bounds.length then .error .manyColumns
  else if s.bounds.length % 2 = 1 then .error .oddColumns
  else .ok ()

/-- A cell of a node: the number of a row or of a node, and bounds. -/
structure Item where
  number : Int
  bounds : List Cell

/-- What the nodes of a tree hold, by their numbers. -/
structure Tree where
  bound : Bound
  width : Nat
  nodeSize : Nat
  node : Int → Option (List Nat)

namespace Tree

def itemSize (t : Tree) : Nat := 8 + 4 * t.width

def item (t : Tree) (bytes : List Nat) : Item :=
  let bound (i : Nat) : Cell := t.bound.cell ((bytes.drop (8 + 4 * i)).take 4)
  ⟨Record.signed (bytes.take 8), (List.range t.width).map bound⟩

def items (t : Tree) (number : Int) : Except Error (List Item) :=
  match t.node number with
  | none => .error .malformed
  | some bytes =>
    let count := Record.unsigned ((bytes.drop 2).take 2)
    if bytes.length ≠ t.nodeSize ∨ (t.nodeSize - 4) / t.itemSize < count then .error .malformed
    else .ok ((List.range count).map fun i => t.item (bytes.drop (4 + i * t.itemSize)))

/-- The rows below a node that has some levels below it. No node is below itself. -/
def rowsBelow (t : Tree) : Nat → List Int → Int → Flow Item
  | below, path, number =>
    match t.items number with
    | .error e => .fail e
    | .ok items =>
      match below with
      | 0 => .ofList items
      | below + 1 => (Flow.ofList items).flatMap fun i =>
        if path.contains i.number then .fail .malformed
        else rowsBelow t below (i.number :: path) i.number

def root : Int := 1

def mostLevels : Nat := 40

def rows (t : Tree) : Flow Item :=
  let levels := Record.unsigned (((t.node root).getD []).take 2)
  if mostLevels < levels then .fail .malformed else t.rowsBelow levels [root] root

end Tree

def leastNode : Nat := 448

def plainRows : Nat := 1048576

def bytes? : Cell → Option (List Nat)
  | .blob bytes | .text bytes => some bytes
  | _ => none

def hasNumber (number : Int) (cells : List Cell) : Bool := cells.head? == some (.integer number)

end Boxes

open Boxes in
/-- A table of boxes. -/
def boxes (openQuery : Opener) (b : Boxes.Bound) (v : Virtual) : Except Error Relation := do
  let s ← match Shape.ofArguments v.arguments with
    | .ok s => pure s
    | .error flaw => fault flaw
  let fields ← match declared 0 (s.declaration b) with
    | .ok fields => pure fields
    | .error flaw => throw (.query flaw)
  match s.check with
  | .ok () => pure ()
  | .error flaw => fault flaw
  let keeper (suffix : String) (terms : List (Shown Term)) : Except Error Relation :=
    openQuery (query terms s!"{v.name}_{suffix}" none [])
  let named (name : String) : Shown Term := shown (column [] name)
  let nodes := (← keeper "node" [named "nodeno", named "data"]).content.items
  let node (number : Int) : Option (List Nat) :=
    ((nodes.find? (hasNumber number)).bind fun cells => cells[1]?).bind bytes?
  let size := ((node Tree.root).getD []).length
  if size < leastNode then fault (.smallNode v.name)
  let extraNames := (List.range s.extras.length).map fun i => s!"a{i}"
  let _ ← keeper "rowid" ((if s.extras.isEmpty then ["nodeno"] else extraNames).map named)
  if s.extras.isEmpty then discard (keeper "parent" [named "parentnode"])
  let tree : Tree := ⟨b, s.bounds.length, size, node⟩
  let extras : Flow (List Cell) :=
    if s.extras.isEmpty then .ofList []
    else
      match keeper "rowid" [named "rowid", .all] with
      | .ok r => r.content
      | .error e => .fail e
  let extra (number : Int) (place : Nat) : Except Error Cell :=
    match extras.items.find? (hasNumber number) with
    | some cells => .ok (cells[place + 3]?.getD .null)
    | none => .ok .null
  let row (i : Item) : Row :=
    let number : Cell := .integer i.number
    let cell (place : Nat) : Except Error Cell :=
      if place = 0 then .ok number
      else if place ≤ s.bounds.length then .ok (i.bounds[place - 1]?.getD .null)
      else extra i.number (place - 1 - s.bounds.length)
    ⟨cell, .ok number, false⟩
  let expected := (logarithm (6 * plainRows), logarithm plainRows)
  return { Relation.ofRows fields (tree.rows.map row) with work? := some expected }

end Motif.Database.Virtual
