import Motif.Database.Rows

/-!
What a database notes about the sizes of its tables, so that rows are read with little work. The
notes are rows of two tables; those that cannot be read are passed over.
-/

set_option autoImplicit false

namespace Motif.Database

open Sql

/-- What remains of a note behind some numbers, each with a blank behind it, and the numbers. What is
no number counts as zero, as long as there is something. -/
def Statistics.numbers : Nat → List Char → List Nat × List Char
  | 0, cs => ([], cs)
  | _ + 1, [] => ([], [])
  | n + 1, cs =>
    let digits := cs.takeWhile Char.isDigit
    let rest := cs.drop digits.length
    let (others, behind) := numbers n (if rest.head? = some ' ' then rest.drop 1 else rest)
    (digits.foldl (fun n c => 10 * n + (c.toNat - '0'.toNat)) 0 :: others, behind)

def Statistics.size? (word : String) : Option Logarithm :=
  let digits := word.toList.drop 3
  if word.startsWith "sz=" ∧ (digits.headD ' ').isDigit then
    some (logarithm (max 2 ((numbers 1 digits).1.headD 0)))
  else none

namespace Index.Estimate

def readWord (e : Estimate) (word : String) : Estimate :=
  if word.startsWith "unordered" then { e with isUnordered := true }
  else if word.startsWith "noskipscan" then { e with isWhole := true }
  else { e with width := (Statistics.size? word).getD e.width }

/-- Takes in a note, which begins with the number of rows, and how many of them are the same in the
first columns. -/
def read (e : Estimate) (note : String) : Estimate :=
  let (counts, words) := Statistics.numbers e.counts.length note.toList
  let counts := counts.map logarithm ++ e.counts.drop counts.length
  let start := { e with counts, isNoted := true, isUnordered := false, isWhole := false }
  (words.splitOn ' ').foldl (fun e word => e.readWord (String.ofList word)) start

end Index.Estimate

def Estimate.read (e : Estimate) (note : String) : Estimate :=
  let (counts, words) := Statistics.numbers 1 note.toList
  let e := { e with rows := ((counts.map logarithm).head?).getD e.rows }
  (words.splitOn ' ').foldl (fun e word =>
    { e with width := (Statistics.size? (String.ofList word)).getD e.width }) e

namespace Schema

def noted? (s : Schema) (t : Table) (name : String) : Option Index :=
  if sameName t.definition.name name then t.indexes.find? Index.isPrimary
  else s.indexes.find? fun i => sameName i.name name

def setTable (s : Schema) (name : String) (f : Estimate → Estimate) : Schema :=
  s.mapTables fun t =>
    if sameName t.definition.name name then { t with estimate := f t.estimate } else t

def addNote (s : Schema) (table : String) (index? : Option String) (note : String) : Schema :=
  match s.table? table with
  | none => s
  | some t =>
    match index?.bind (s.noted? t) with
    | some index =>
      let estimate := index.estimate.read note
      let s := s.mapIndexes (fun i => { i with estimate }) index.name
      if index.isPartial then s
      else s.setTable table fun e => { e with rows := estimate.counts.headD e.rows }
    | none => s.setTable table fun e => e.read note

def leastRows : Logarithm := 99

/-- Indexes of which nothing is noted go by the number of rows of their tables. -/
def settleNotes (s : Schema) : Schema :=
  s.mapTables fun t =>
    if t.indexes.all fun i => i.estimate.isNoted then t
    else
      let rows := max leastRows t.estimate.rows
      let guess (i : Index) : Index :=
        if i.estimate.isNoted then i
        else { i with estimate := { i.estimate with counts := i.plainCounts rows } }
      { t with estimate := { t.estimate with rows }, indexes := t.indexes.map guess }

def withSamples (s : Schema) (index : String) : Schema :=
  let primary := (s.table? index).any fun t =>
    !t.definition.numbered && !(s.indexes.any fun i => sameName i.name index)
  s.mapTables fun t =>
    let isSampled := (primary && sameName t.definition.name index) ||
      t.indexes.any fun i => sameName i.name index
    if isSampled then { t with estimate := { t.estimate with hasSamples := true } } else t

end Schema

namespace Image

def texts (im : Image) (s : Schema) (table : String) (columns : List String) :
    Flow (List (Option String)) :=
  match s.table? table with
  | none => .ofList []
  | some t =>
    match columns.mapM (Definition.placeOf? t.definition.columns) with
    | none => .fail .malformed
    | some places =>
      (im.rowsOf t none places).mapM fun row =>
        places.mapM fun place => do return im.cellText? (← row.cell place)

def schema (im : Image) : Except Error Schema := do
  let stated ← im.statedSchema
  let notes := im.texts stated "sqlite_stat1" ["tbl", "idx", "stat"]
  let settled := (notes.items.foldl (fun (s : Schema) cells =>
    match cells with
    | [some table, index?, some note] => s.addNote table index? note
    | _ => s) stated).settleNotes
  if notes.fault?.isSome then return settled
  else
    let samples := (im.texts settled "sqlite_stat4" ["idx"]).items.flatten
    return samples.reduceOption.foldl Schema.withSamples settled

end Image

end Motif.Database
