import Motif.Sql.Parser.Statement
import Motif.Sql.Signature
import Motif.Text.Utf8

/-!
What the statement that made a table says of it: its columns, what stands for them in rows older
than the column, which of them are computed, and the keys by which rows are found.
-/

set_option autoImplicit false

namespace Motif.Database

open Sql

/-- A value that is worked out of the other columns, once or whenever it is read. -/
structure Generated where
  value : Term
  isStored : Bool

structure Column where
  name : String
  type : String
  collation : String
  fallback : Cell
  generated : Option Generated
  /-- No row holds null. -/
  isFilled : Bool

namespace Column

def affinity (c : Column) : Affinity := Affinity.ofType c.type

def isVirtual (c : Column) : Bool := c.generated.any fun g => !g.isStored

end Column

/-- What something is ordered by: a column, the number of a row, or an expression. -/
inductive Part where
  | column (place : Nat)
  | number
  | expression
deriving DecidableEq

/-- A part of what something is ordered by, with the expression if it is one. -/
structure KeyPart where
  part : Part
  collation : String
  descending : Bool
  term? : Option Term

def KeyPart.isSame (a b : KeyPart) : Bool := a.part == b.part && sameName a.collation b.collation

/-- Columns that no two rows may have in common, by which the rows are ordered in an index. It may be
said what is done about a row that has. -/
structure Key where
  parts : List KeyPart
  isPrimary : Bool
  conflict? : Option String

/-- A table as its statement defines it. -/
structure Definition where
  name : String
  columns : List Column
  alias? : Option Nat
  keys : List Key
  /-- Rows have numbers; others are ordered by the primary key. -/
  numbered : Bool

namespace Definition

def placeOf? (columns : List Column) (name : String) : Option Nat :=
  columns.findIdx? fun c => sameName c.name name

def numberNames : List String := ["_rowid_", "rowid", "oid"]

def isNumberName (name : String) : Bool := numberNames.contains (Token.lower name)

def plainCollation : String := "binary"

def withoutCollation : Term → Term
  | .collate e _ => withoutCollation e
  | e => e

def keyName? (e : Term) : Option Name :=
  match withoutCollation e with
  | .name n => if n.path.isEmpty then some n else none
  | .literal (.string bytes) =>
    some ⟨[], Text.Utf8.text bytes, false, true⟩
  | _ => none

/-- Where an expression is that belongs to a table. -/
inductive Use where
  | index
  | condition
  | check
  | generated
deriving DecidableEq

def Use.place : Use → String
  | .index => "index expressions"
  | .condition => "partial index WHERE clauses"
  | .check => "CHECK constraints"
  | .generated => "generated columns"

/-- Finds what is wrong with a part of an expression: it may speak of the columns of its table. -/
def checkPart (columns : List Column) (use : Use) (e : Term) : Except Flaw Unit :=
  match e with
  | .name n =>
    let isFree := use = .check ∨ use = .condition
    if !isFree ∧ !n.path.isEmpty then .error (.dotIn use.place)
    else if (placeOf? columns n.column).isSome ∨ n.mayBeText ∨ e.truth?.isSome ∨
        (isFree ∧ isNumberName n.column) then .ok ()
    else .error (.noSuchColumn n.text)
  | .exists _ | .scalar _ | .amongRows _ _ => .error (.subqueryIn use.place)
  | .parameter => .error (.parameterIn use.place)
  | .call name _ arguments filter over? =>
    let arguments := arguments.getD []
    let changes := (Signature.find? name arguments.length).any Signature.changes
    match Expr.callFlaw? false false name arguments filter.isSome over?.isSome with
    | some (.noSuchFunction _) => .ok ()
    | some flaw => .error flaw
    | none => if changes ∧ use ≠ .check then .error (.changingIn use.place) else .ok ()
  | _ => .ok ()

/-- Finds what is wrong with an expression. Of a call that is wrong the first arguments are still
looked at, and what is wrong with them counts. -/
def check (columns : List Column) (use : Use) (e : Term) : Except Flaw Unit :=
  let isWrong (part : Term) : Bool :=
    match checkPart columns use part with
    | .ok () => false
    | .error _ => true
  match e.all.find? isWrong with
  | none => .ok ()
  | some part =>
    checkPart columns use ((part.lastWrong? isWrong).getD part)

/-- A part of a key. A column by itself is compared as the table says, unless that is said. -/
def keyPart (columns : List Column) (o : Order Term) : Except Flaw KeyPart := do
  let said := match o.key with
    | .collate _ collation => some collation
    | _ => none
  match keyName? o.key with
  | some n =>
    match placeOf? columns n.column with
    | some place =>
      let own := (columns[place]?.map Column.collation).getD plainCollation
      return ⟨.column place, said.getD own, o.descending, none⟩
    | none =>
      if n.mayBeText ∨ (Expr.name n : Term).truth?.isSome then
        return ⟨.expression, said.getD plainCollation, o.descending, some o.key⟩
      else throw (.noSuchColumn n.text)
  | none =>
    check columns .index o.key
    return ⟨.expression, said.getD plainCollation, o.descending, some o.key⟩

def sameKey (a b : Key) : Bool :=
  a.parts.length == b.parts.length && (a.parts.zip b.parts).all fun (p, q) => p.isSame q

/-- What has been read of a table so far. -/
structure Draft where
  columns : List Column
  alias? : Option Nat
  keys : List Key
  hasPrimary : Bool
  counts : Bool
  checks : List Term

namespace Draft

/-- Adds a key of columns. What is done about rows that break it must not be said in two ways. -/
def addKey (d : Draft) (isPrimary : Bool) (orders : List (Order Term)) (conflict? : Option String) :
    Except Flaw Draft := do
  let parts ← orders.mapM (keyPart d.columns)
  if parts.any fun p => p.part = .expression then throw .keyExpression
  let key : Key := ⟨parts, isPrimary, conflict?⟩
  let others := d.keys.filter fun other => sameKey key other && !(other.isPrimary && d.alias?.isSome)
  match conflict?, others.head?.bind Key.conflict? with
  | some a, some b => if a ≠ b then throw .conflictTwice
  | _, _ => pure ()
  return { d with keys := d.keys ++ [key] }

def isGenerated (d : Draft) (place : Nat) : Bool :=
  (d.columns[place]?.bind Column.generated).isSome

/-- Adds a primary key. A single column of the type of integers is the number of a row, unless its
own rule turns the order round. -/
def addPrimary (table : String) (d : Draft) (orders : List (Order Term))
    (turned counts : Bool) (conflict? : Option String) : Except Flaw Draft := do
  if d.hasPrimary then throw (.secondPrimaryKey table)
  let d := { d with hasPrimary := true }
  let places := orders.filterMap fun o => (keyName? o.key).bind fun n => placeOf? d.columns n.column
  if places.any d.isGenerated then throw .generatedKey
  match orders, places with
  | [o], [place] =>
    if !turned ∧ d.columns[place]?.any fun c => Token.lower c.type == "integer" then
      let part : KeyPart := ⟨.column place, plainCollation, o.descending, none⟩
      let key : Key := ⟨[part], true, conflict?⟩
      return { d with alias? := some place, counts, keys := d.keys ++ [key] }
    else if counts then throw .misplacedCounter
    else d.addKey true orders conflict?
  | _, _ => if counts then throw .misplacedCounter else d.addKey true orders conflict?

def change (d : Draft) (f : Column → Column) : Draft :=
  { d with columns := d.columns.dropLast ++ (d.columns.getLast?.map f).toList }

def byName (name : String) : Order Term := ⟨.name ⟨[], name, false, true⟩, false, none⟩

def addRule (table : String) (d : Draft) (name : String) (hasDefault : Bool) :
    ColumnRule → Except Flaw Draft
  | .default value =>
    if !value.isConstant then throw (.changingDefault name)
    else if d.isGenerated (d.columns.length - 1) then throw .generatedDefault
    else
      return d.change fun c => { c with fallback := (value.settled? c.affinity).getD .null }
  | .notNull => return d.change fun c => { c with isFilled := true }
  | .primaryKey descending counts conflict? =>
    d.addPrimary table [{ byName name with descending }] descending counts conflict?
  | .unique conflict? => d.addKey false [byName name] conflict?
  | .check condition => return { d with checks := d.checks ++ [condition] }
  | .references other columns =>
    if 1 < columns.length then throw (.foreignSingle name other) else return d
  | .collate collation => do
    let place := d.columns.length - 1
    let recollate (p : KeyPart) : KeyPart :=
      if p.part = .column place then { p with collation } else p
    let keys := d.keys.map fun k => { k with parts := k.parts.map recollate }
    return { d.change fun c => { c with collation } with keys }
  | .generated value storage => do
    let storage := storage.map Token.lower
    if hasDefault ∨ !(storage.all fun s => s == "virtual" || s == "stored") then
      throw (.badGenerated name)
    let isPrimary := d.keys.any fun k =>
      k.isPrimary && k.parts.any fun p => p.part == .column (d.columns.length - 1)
    if isPrimary then throw .generatedKey
    return d.change fun c => { c with
      generated := some ⟨value, storage == some "stored"⟩,
      fallback := (value.settled? c.affinity).getD .null }
  | .other => return d

def isDefault : ColumnRule → Bool
  | .default _ | .generated _ _ => true
  | _ => false

def addColumn (table : String) (d : Draft) (c : ColumnText) : Except Flaw Draft := do
  if (placeOf? d.columns c.name).isSome then throw (.duplicateColumn c.name)
  let d := { d with columns := d.columns ++ [⟨c.name, c.type, plainCollation, .null, none, false⟩] }
  c.rules.zipIdx.foldlM (fun d (rule, i) =>
    d.addRule table c.name ((c.rules.take i).any isDefault) rule) d

def addTableRule (table : String) (d : Draft) : TableRule → Except Flaw Draft
  | .primaryKey key counts conflict? => d.addPrimary table key false counts conflict?
  | .unique key conflict? => d.addKey false key conflict?
  | .check condition => return { d with checks := d.checks ++ [condition] }
  | .foreign columns _ others => do
    if !others.isEmpty ∧ others.length ≠ columns.length then throw .foreignCount
    columns.forM fun name =>
      if (placeOf? d.columns name).isSome then .ok () else .error (.foreignColumn name)
    return d
  | .other => return d

end Draft

def merge : List Key → List Key
  | [] => []
  | key :: rest =>
    let others := merge rest
    let same := others.filter (sameKey key)
    ⟨key.parts, key.isPrimary || same.any Key.isPrimary,
      key.conflict?.or (same.findSome? Key.conflict?)⟩ ::
      others.filter fun other => !sameKey key other

def isNumbered (option? : Option String) : Except Flaw Bool :=
  match option? with
  | none => .ok true
  | some word => if sameName word "rowid" then .ok false else .error (.unknownOption word)

/-- The last of the things that are wrong with what the columns and rules are made of. -/
def lastFlaw? (d : Draft) (option? : Option Flaw) : Option Flaw :=
  let ofChecks := match d.checks.forM (check d.columns .check) with
    | .ok () => option?
    | .error flaw => some flaw
  let values := d.columns.filterMap fun c => c.generated.map Generated.value
  let ofValues := values.foldl (fun (found : Option Flaw) e =>
    match check d.columns .generated e with
    | .ok () => found
    | .error flaw => if found.isNone || e.isShallow then some flaw else found) ofChecks
  if values.length = d.columns.length then some .onlyGenerated else ofValues

def fillKeys (d : Definition) : Definition :=
  let isKey (place : Nat) : Bool :=
    d.keys.any fun key => key.isPrimary && key.parts.any fun p => p.part == .column place
  { d with
    columns := d.columns.zipIdx.map fun (c, place) =>
      { c with isFilled := c.isFilled || isKey place } }

/-- Puts together what the statement of a table says. A key that could have been the number of the
rows is made last if they have none. Checks can be left out. -/
def ofText (hasChecks : Bool) (name : String) (text : TableText) : Except Flaw Definition := do
  let d ← text.columns.foldlM (Draft.addColumn name) ⟨[], none, [], false, false, []⟩
  let d ← text.rules.foldlM (Draft.addTableRule name) d
  let d := if hasChecks then d else { d with checks := [] }
  match text.flaw with
  | some flaw => throw flaw
  | none => pure ()
  let (numbered, option?) := match isNumbered text.option with
    | .ok numbered => (numbered, none)
    | .error flaw => (true, some flaw)
  if !numbered then
    if d.counts then throw .unnumberedCounter
    if !d.hasPrimary then throw (.noPrimaryKey name)
  match lastFlaw? d option? with
  | some flaw => throw flaw
  | none => pure ()
  let (others, keys) := match d.alias? with
    | none => (d.keys, [])
    | some place =>
      let own := (d.columns[place]?.map Column.collation).getD plainCollation
      let (primary, others) := d.keys.partition Key.isPrimary
      let settle (p : KeyPart) : KeyPart := { p with collation := own }
      (others, primary.map fun key => { key with parts := key.parts.map settle })
  if numbered then return ⟨name, d.columns, d.alias?, merge others, true⟩
  else return fillKeys ⟨name, d.columns, none, merge (others ++ keys), false⟩

end Definition

end Motif.Database
