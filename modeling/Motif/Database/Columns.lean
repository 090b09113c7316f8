import Motif.Database.Select

/-!
The columns of tables that are joined: which they have in common, and which are meant where all of
them are asked for.
-/

set_option autoImplicit false

namespace Motif.Database.Select

open Sql
open Context (flaw)

/-- The columns that the next table of a join has in common with those in front of it. -/
def commonColumns (bounds : List Bound) (r : Relation) (item : Item Term Query) :
    Except Error (List String) :=
  let has (fields : List Field) (name : String) : Bool := fields.any fun f => sameName f.name name
  let isBefore (name : String) : Bool := bounds.any fun b => has b.fields name
  if item.isNatural ∧ (item.on.isSome ∨ item.common.isSome) then flaw .naturalWithMore
  else if item.on.isSome ∧ item.common.isSome then flaw .onWithUsing
  else if item.isNatural then
    .ok ((r.fields.filter fun f => !f.isHidden && isBefore f.name).map Field.name)
  else do
    let common := item.common.getD []
    common.forM fun name =>
      if isBefore name ∧ has r.fields name then .ok () else flaw (.commonColumn name)
    return common

def fieldAt (bounds : List Bound) (table place : Nat) : Meaning :=
  match bounds[table]?.bind fun b => b.fields[place]? with
  | some f => Context.fieldMeaning 0 table place f
  | none => .null

def placeIn (b : Bound) (name : String) : Option Nat :=
  b.fields.findIdx? fun f => sameName f.name name

def firstField (bounds : List Bound) (name : String) : Meaning :=
  let found := bounds.zipIdx.findSome? fun (b, table) =>
    (placeIn b name).map fun place => fieldAt bounds table place
  found.getD .null

def commonTests (bounds : List Bound) (table : Nat) (common : List String) :
    Except Error (List Meaning) :=
  common.mapM fun name =>
    let own := (bounds[table]?.bind fun b => placeIn b name).getD 0
    Meaning.compare .equal (firstField (bounds.take table) name) (fieldAt bounds table own)

def allOutputs (bounds : List Bound) (table? : Option String) : List Output :=
  bounds.zipIdx.flatMap fun (b, table) =>
    b.fields.zipIdx.filterMap fun (f, place) =>
      let home := f.home.getD (b.label, f.name)
      let isMeant := table?.all fun name => sameName name (if b.isJoin then home.1 else b.label)
      let isCommon := table?.isNone && b.common.any (sameName f.name)
      if f.isHidden ∨ isCommon ∨ !isMeant then none
      else some ⟨f.name, some f.name, fieldAt bounds table place, some home⟩

/-- How columns are named that have no label: as they are written, or as their tables call them. -/
inductive Naming where
  | written
  | known
deriving DecidableEq

/-- The name of a column that is just read; the number of a row is called after the column that it
is. -/
def knownName? (bounds : List Bound) (m : Meaning) : Option String :=
  match m.bare.column with
  | some ⟨0, table, place?⟩ =>
    bounds[table]?.bind fun b =>
      match place? with
      | some place => b.fields[place]?.map Field.name
      | none => some (((b.fields.find? Field.isNumber).map Field.name).getD "rowid")
  | _ => none

def writtenName? (e : Term) : Option String :=
  match Definition.withoutCollation e with
  | .name n => some n.column
  | _ => none

def outputs (naming : Naming) (bounds : List Bound) (meaning : Term → Except Error Meaning) :
    Shown Term → Except Error (List Output)
  | .all => if bounds.isEmpty then flaw .noTables else .ok (allOutputs bounds none)
  | .allOf table =>
    match allOutputs bounds (some table) with
    | [] => flaw (.noSuchTable table)
    | found => .ok found
  | .one e label text => do
    let m ← meaning e
    let own := if naming = .known then knownName? bounds m else writtenName? e
    return [⟨(label.or own).getD text, label, m, none⟩]

def equalTo? (table place : Nat) (e : Meaning) : Option Meaning :=
  let isOwn (side : Meaning) : Bool := side.column == some ⟨0, table, some place⟩
  let isFree (side : Meaning) : Bool := side.reads.all fun r => r.depth ≠ 0 || r.table ≠ table
  match e.operation, e.parts with
  | .compare .equal _, [a, b] =>
    if isOwn a ∧ isFree b then some b else if isOwn b ∧ isFree a then some a else none
  | _, _ => none

/-- What a function is given: its arguments, and behind them what conditions say of the hidden columns
that stand for the others. -/
def given (fields : List Field) (table : Nat) (keepsLeft : Bool) (tests : List Test)
    (arguments : List Meaning) : List Meaning :=
  let own := tests.filter fun t => if keepsLeft then t.home? = some table else t.home?.isNone
  let conditions := own.flatMap fun t => t.meaning.conjuncts
  let hidden := (fields.zipIdx.filter fun f => f.1.isHidden).map Prod.snd
  let others := (hidden.drop arguments.length).map fun place =>
    conditions.findSome? (equalTo? table place)
  arguments ++ (others.takeWhile Option.isSome).reduceOption

end Motif.Database.Select
