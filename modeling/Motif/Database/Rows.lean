import Motif.Database.Schema
import Motif.Database.Scope

/-!
The rows of a table in a file. Columns that no row keeps are worked out from the others.
-/

set_option autoImplicit false

namespace Motif.Database

open Sql

namespace Schema.Table

def fields (t : Table) : List Field :=
  t.definition.columns.zipIdx.map fun (c, place) =>
    { Field.plain c.name (some c.affinity) (some c.collation) with
      isNumber := t.definition.alias? == some place, isFilled := c.isFilled }

def context (t : Table) (hasNumbers : Bool) : Context :=
  let bound : Bound := ⟨t.definition.name, t.fields, hasNumbers, [], false⟩
  ⟨[⟨[bound], [], [], false, false⟩], fun _ _ => .error (.query .rowMisused), true⟩

/-- What the expressions of columns mean that no row keeps. -/
abbrev Workings := Array (Option (Except Error Meaning))

def workings (t : Table) : Workings :=
  (t.definition.columns.map fun c => do
    let g ← c.generated
    if g.isStored then none
    else
      return ((t.context false).meaning Expr.mostLevels g.value).mapError fun e =>
        match e with
        | .query (.noSuchFunction name) => .query (.unknownFunction name)
        | e => e).toArray

/-- Fails if a column cannot be worked out: no column is made of itself. Goes along as many columns
as are given. -/
def check (t : Table) (w : Workings) : Nat → List Nat → Nat → Except Error Unit
  | 0, _, _ => .error .malformed
  | n + 1, path, place =>
    match (w[place]?).join with
    | none => .ok ()
    | some found => do
      let name := (t.definition.columns[place]?.map Column.name).getD ""
      if path.contains place then throw (.query (.generatedLoop name))
      (← found).reads.forM fun r =>
        match r.place with
        | some other => check t w n (place :: path) other
        | none => .ok ()

/-- The cell of a column, if `kept` gives those that rows keep. Goes along as many columns as are
given. -/
def cell (t : Table) (w : Workings) (kept : Nat → Column → Except Error Cell)
    (number : Except Error Cell) : Nat → Nat → Except Error Cell
  | 0, _ => .error .malformed
  | n + 1, place =>
    match t.definition.columns[place]?, (w[place]?).join with
    | none, _ => .ok .null
    | some c, none => kept place c
    | some c, some found => do
      let row : Row := ⟨cell t w kept number n, number, false⟩
      return (← (← found).value (.ofRows [[row]])).store c.affinity

def trackKey (t : Table) (p : KeyPart) : Track.Key :=
  match p.part with
  | .column place => if t.definition.alias? = some place then .number else .column place
  | .number => .number
  | .expression =>
    let meaning? := p.term?.bind fun e => ((t.context false).meaning Expr.mostLevels e).toOption
    .expression (meaning?.getD (.made .query [] fun _ => .ok .null))

/-- The parts of an index: its own, and those behind them by which a row is found. Only the own ones
may be turned round. -/
def trackParts (t : Table) (mayTurn : Bool) (i : Index) : List Track.Part :=
  let d := t.definition
  let part (isOwn : Bool) (p : KeyPart) : Track.Part :=
    ⟨t.trackKey p, p.collation, isOwn && mayTurn && p.descending, Schema.isFilled d p⟩
  let column (part : Part) : KeyPart := ⟨part, Definition.plainCollation, false, none⟩
  let (own, others) :=
    if d.numbered then (i.parts, [column .number])
    else if i.isPrimary then
      let own := Source.order d
      (own, ((Source.orderedFields d).drop own.length).map column)
    else (i.parts, (Source.extend i.parts (Source.order d)).drop i.parts.length)
  own.map (part true) ++ others.map (part false)

def track? (t : Table) (mayTurn : Bool) (i : Index) : Option Track := do
  let d := t.definition
  let isPrimary := i.isPrimary && !d.numbered
  let condition? ← i.condition?.mapM fun e => ((t.context true).meaning Expr.mostLevels e).toOption
  return {
    name := i.name, parts := t.trackParts mayTurn i
    size := if isPrimary then (Source.order d).length else i.parts.length
    isUnique := i.isUnique, isFilled := i.isFilled
    conditions := (condition?.map Meaning.conjuncts).getD []
    isPrimary, covers := fun columns => Source.covers d columns i
    counts := i.estimate.counts, width := i.estimate.width, isNoted := i.estimate.isNoted
    isUnordered := i.estimate.isUnordered, isWhole := i.estimate.isWhole }

def survey (t : Table) (mayTurn : Bool) : Survey :=
  let readable := t.indexes.filter (Source.isReadable t.definition)
  ⟨t.definition.numbered, t.estimate.rows, t.estimate.width, t.estimate.hasSamples,
    readable.filterMap (t.track? mayTurn)⟩

def keyPlaces (t : Table) : List Nat :=
  Source.places ((Source.order t.definition).map KeyPart.part)

end Schema.Table

namespace Image

/-- The entry of a table that an entry of an index belongs to. -/
def found (t : Schema.Table) (table : List Entry) (index : Source) (e : Entry) :
    Except Error Entry := do
  let d := t.definition
  if d.numbered then
    let number ← Source.number index e
    match table.find? fun other => Cell.integer other.number == number with
    | some other => return other
    | none => throw .malformed
  else
    let source := Source.ofTable d t.root
    let places := t.keyPlaces
    let key (s : Source) (e : Entry) : Except Error (List Cell) :=
      places.mapM fun place =>
        match d.columns[place]? with
        | some c => s.cell d e place c
        | none => .ok .null
    let wanted ← key index e
    match ← table.filterM fun other => do return (← key source other) == wanted with
    | other :: _ => return other
    | [] => throw .malformed

def unknownOrder? (t : Schema.Table) : Option String :=
  if t.definition.numbered then none
  else (t.indexes.find? Index.isPrimary).bind (Source.unknownCollation? t.definition)

/-- The rows of a table in the order of a track, if some columns are all that is read of them. -/
def rowsOf (im : Image) (t : Schema.Table) (track? : Option Track) (columns : List Nat) :
    Flow Row :=
  let d := t.definition
  let w := t.workings
  let levels := d.columns.length + 1
  let row (s : Source) (e : Entry) : Row :=
    let number := Source.number s e
    ⟨t.cell w (fun place c => s.cell d e place c) number levels, number, false⟩
  let direct (s : Source) : Flow Row := (im.entries s.kind s.root).map (row s)
  let table := Source.ofTable d t.root
  match unknownOrder? t, columns.forM (t.check w levels []) with
  | some name, _ => .fail (.query (.noSuchCollation name))
  | none, .error e => .fail e
  | none, .ok () =>
    match track?.bind fun track => t.indexes.find? fun i => i.name == track.name with
    | none => direct table
    | some i =>
      let index := Source.ofIndex d i
      if Source.covers d columns i then direct index
      else
        let others := (im.entries table.kind table.root).items
        (im.entries index.kind index.root).mapM fun e => do
          return row table (← found t others index e)

def turningFormat : Nat := 4

def tableRelation (im : Image) (t : Schema.Table) : Relation :=
  let stored : Stored := ⟨t.survey (turningFormat ≤ im.byte 47), im.rowsOf t, t.keyPlaces⟩
  let fields := t.fields
  ⟨fields, t.definition.numbered, [], some stored, none, [], false, false, none, fun _ =>
    .ok ⟨t.estimate.rows, fun _ => im.rowsOf t none (List.range fields.length)⟩⟩

end Image

end Motif.Database
