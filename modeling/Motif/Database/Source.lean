import Motif.Database.Definition
import Motif.Database.Logarithm
import Motif.Database.Relation
import Motif.Database.Text
import Motif.Database.Tree

/-!
The trees that hold the columns of a table: its own, and those of its indexes. Rows are read from
the tree that is expected to take the least work, as long as it holds the columns asked for.
-/

set_option autoImplicit false

namespace Motif.Database

open Sql

/-- What is expected of a table: how many rows it has, and how large they are. -/
structure Estimate where
  rows : Logarithm
  width : Logarithm
  /-- Some of its rows are known. -/
  hasSamples : Bool
deriving DecidableEq

/-- What is expected of an index: how many rows it has, how many of them are the same in the first
column, in the first two and so on, and how large they are. -/
structure Index.Estimate where
  counts : List Logarithm
  width : Logarithm
  /-- Something is noted of it. -/
  isNoted : Bool
  /-- The rows are not to be read in its order. -/
  isUnordered : Bool
  /-- Columns at the front are not to be skipped. -/
  isWhole : Bool
deriving DecidableEq

/-- An index: one with a condition leaves rows out. One that came with its table has no statement. -/
structure Index where
  name : String
  parts : List KeyPart
  condition? : Option Term
  isUnique : Bool
  /-- No two rows are the same in it, and none has a null. -/
  isFilled : Bool
  /-- A row that is the same in it as another takes the place of that. -/
  replaces : Bool
  isPrimary : Bool
  isMade : Bool
  root : Nat
  estimate : Index.Estimate

namespace Index

def isPartial (i : Index) : Bool := i.condition?.isSome

/-- How many rows there are, if nothing is noted: fewer for each column more, and one for all columns
of a key. Partial indexes hold half of the rows. -/
def plainCounts (i : Index) (rows : Logarithm) : List Logarithm :=
  let size := i.parts.length
  let fewer := (List.range size).map fun k => ([33, 32, 30, 28, 27][k]?).getD 23
  (if i.isPartial then rows - 10 else rows) ::
    (if i.isUnique then fewer.dropLast ++ [0] else fewer)

end Index

/-- A table with its indexes, the latest first. -/
structure Schema.Table where
  definition : Definition
  root : Nat
  estimate : Estimate
  indexes : List Index

/-- A tree with what the fields of its records are, in order. -/
structure Source where
  root : Nat
  kind : TreeKind
  fields : List Part

namespace Source

def total (sizes : List Nat) : Nat := sizes.foldl (· + ·) 0

def widthOf (d : Definition) : Part → Nat
  | .column place => (d.columns[place]?.map fun c => Affinity.width c.type).getD 1
  | .number | .expression => 1

def places (parts : List Part) : List Nat :=
  parts.filterMap fun part =>
    match part with
    | .column place => some place
    | _ => none

def kept (d : Definition) : List Part :=
  d.columns.zipIdx.filterMap fun (c, place) => if c.isVirtual then none else some (.column place)

def extend (parts others : List KeyPart) : List KeyPart :=
  parts ++ others.filter fun other => !parts.any (KeyPart.isSame other)

def order (d : Definition) : List KeyPart :=
  ((d.keys.find? Key.isPrimary).map fun key =>
    key.parts.foldl (fun parts p => extend parts [p]) []).getD []

def orderedFields (d : Definition) : List Part :=
  let first := (order d).map KeyPart.part
  first ++ (kept d).filter fun part => !first.contains part

/-- The fields of an index. They end with what finds a row: its number, or the columns that order
the rows. -/
def indexFields (d : Definition) (index : Index) : List Part :=
  if index.isPrimary ∧ !d.numbered then orderedFields d
  else if d.numbered then
    index.parts.map KeyPart.part ++ [(d.alias?.map Part.column).getD .number]
  else (extend index.parts (order d)).map KeyPart.part

def tableWidth (d : Definition) : Nat :=
  total (d.columns.map fun c => Affinity.width c.type) + if d.alias?.isSome then 0 else 1

def indexWidth (d : Definition) (index : Index) : Nat :=
  total ((indexFields d index).map (widthOf d))

def plainRows : Logarithm := 200

def plainEstimate (d : Definition) : Estimate :=
  ⟨plainRows, logarithm (4 * tableWidth d), false⟩

def plainIndex (d : Definition) (index : Index) : Index :=
  { index with
    estimate := ⟨index.plainCounts plainRows, logarithm (4 * indexWidth d index), false, false,
      false⟩ }

def ofTable (d : Definition) (root : Nat) : Source :=
  if d.numbered then ⟨root, .table, kept d⟩ else ⟨root, .index, orderedFields d⟩

def ofIndex (d : Definition) (index : Index) : Source :=
  ⟨index.root, .index, indexFields d index⟩

def coveredLimit : Nat := 63

/-- The columns that an index is known to hold. One that came with a table without numbers is made
before it is known what finds a row. -/
def covered (d : Definition) (index : Index) : List Nat :=
  let parts :=
    if index.isMade ∨ d.numbered then indexFields d index else index.parts.map KeyPart.part
  (places parts).filter fun place =>
    place < coveredLimit && !(d.columns[place]?.any Column.isVirtual)

def required (d : Definition) (columns : List Nat) : List Nat :=
  if columns.any fun place => (d.columns[place]?.bind Column.generated).isSome then
    List.range d.columns.length
  else columns

def covers (d : Definition) (columns : List Nat) (index : Index) : Bool :=
  (index.isPrimary && !d.numbered) ||
    ((required d columns).filter fun place => d.alias? != some place).all fun place =>
      (covered d index).contains place

def collations (d : Definition) (index : Index) : List String :=
  (if d.numbered then index.parts else extend index.parts (order d)).map KeyPart.collation

def unknownCollation? (d : Definition) (index : Index) : Option String :=
  (collations d index).find? fun name => (Collation.ofName? name).isNone

def isReadable (d : Definition) (index : Index) : Bool :=
  (unknownCollation? d index).isNone

def cell (d : Definition) (s : Source) (e : Entry) (place : Nat) (c : Column) :
    Except Error Cell :=
  if s.kind = .table ∧ d.alias? = some place then .ok (.integer e.number)
  else
    match s.fields.idxOf? (.column place) with
    | none => .ok .null
    | some field => do
      let read? ← Record.cellAt? e.payload field
      let cell := (read?.map e.payload.image.decoded).getD c.fallback
      return if c.affinity = .real then cell.asReal else cell

def number (s : Source) (e : Entry) : Except Error Cell :=
  if s.kind = .table then .ok (.integer e.number)
  else do return (← Record.cellAt? e.payload (s.fields.length - 1)).getD .null

end Source

end Motif.Database
