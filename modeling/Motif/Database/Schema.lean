import Motif.Database.Source

/-!
The schema of a database: a table at the first page, with a row for everything that a statement
has made. Rows are taken in one after the other, and each has to agree with its statement.
-/

set_option autoImplicit false

namespace Motif.Database

open Sql

/-- A query with a name. Its columns may have names of their own. -/
structure View where
  name : String
  columns : List String
  query : Query

/-- A table whose rows are found in other tables, in a way that a module knows. -/
structure Virtual where
  name : String
  module : String
  arguments : List String

namespace Schema

inductive Item where
  | table (t : Table)
  | view (v : View)
  | virtual (v : Virtual)

def Item.name : Item → String
  | .table t => t.definition.name
  | .view v => v.name
  | .virtual v => v.name

end Schema

/-- What the statements have made, the latest first, and the names of what is done about changes. -/
structure Schema where
  items : List Schema.Item
  triggers : List String

namespace Schema

def find? (s : Schema) (name : String) : Option Item :=
  s.items.find? fun item => sameName item.name name

def table? (s : Schema) (name : String) : Option Table :=
  match s.find? name with
  | some (.table t) => some t
  | _ => none

def tables (s : Schema) : List Table :=
  s.items.filterMap fun item =>
    match item with
    | .table t => some t
    | _ => none

def indexes (s : Schema) : List Index := s.tables.flatMap Table.indexes

def hasIndex (s : Schema) (name : String) : Bool := s.indexes.any fun i => sameName i.name name

def mapTables (f : Table → Table) (s : Schema) : Schema :=
  { s with
    items := s.items.map fun item =>
      match item with
      | .table t => .table (f t)
      | other => other }

def mapIndexes (f : Index → Index) (name : String) (s : Schema) : Schema :=
  s.mapTables fun t => { t with
    indexes := t.indexes.map fun i => if sameName i.name name then f i else i }

def ownIndexName (table : String) (place : Nat) : String := s!"sqlite_autoindex_{table}_{place}"

def isFilled (d : Definition) (p : KeyPart) : Bool :=
  match p.part with
  | .column place => d.columns[place]?.any Column.isFilled
  | .number => true
  | .expression => false

def arrange (indexes : List Index) : List Index :=
  let (last, first) := indexes.partition Index.replaces
  first ++ last

/-- The indexes of the keys of a table. Their roots are told later, but rows without numbers are
themselves in the index of their primary key. -/
def ownIndexes (d : Definition) (root : Nat) : List Index :=
  (d.keys.zipIdx.map fun (key, place) =>
    let root := if key.isPrimary ∧ !d.numbered then root else 0
    let index : Index := ⟨ownIndexName d.name (place + 1), key.parts, none, true,
      key.parts.all (isFilled d), key.conflict? == some "replace", key.isPrimary, false, root,
      ⟨[], 0, false, false, false⟩⟩
    Source.plainIndex d index).reverse

def makeTable (d : Definition) (root : Nat) : Table :=
  ⟨d, root, Source.plainEstimate d, arrange (ownIndexes d root)⟩

/-- What the columns of a row of the schema say. -/
structure Entry where
  kind : Option String
  name : Option String
  table : Option String
  root : Nat

/-- A row is wrong, or does not agree with its statement. -/
abbrev Taken := Except (Option Flaw) Schema

def Entry.agrees (e : Entry) (kind name table : String) : Bool :=
  e.kind.any (sameName kind) && e.name.any (sameName name) && e.table.any (sameName table)

def add (s : Schema) (e : Entry) (kind name written : String) (item : Except Flaw Item) : Taken :=
  if !e.agrees kind name name ∨ e.root = 1 then .error none
  else if (s.find? name).isSome then .error (some (.tableExists written))
  else if s.hasIndex name then .error (some (.indexNamed name))
  else
    match item with
    | .ok item => .ok { s with items := item :: s.items }
    | .error flaw => .error (some flaw)

/-- Adds an index to its table. -/
def addIndex (s : Schema) (e : Entry) (isUnique : Bool) (name table : String)
    (key : List (Order Term)) (condition? : Option Term) : Taken :=
  match s.find? table with
  | none => .error (some (.noSuchTable s!"main.{table}"))
  | some (.view _) => .error (some .viewIndexed)
  | some (.virtual _) => .error (some .virtualIndexed)
  | some (.table t) =>
    let d := t.definition
    if !e.agrees "index" name d.name then .error none
    else if s.hasIndex name then .error (some (.indexExists name))
    else
      let found : Except Flaw (List KeyPart) := do
        condition?.toList.forM (Definition.check d.columns .condition)
        key.mapM (Definition.keyPart d.columns)
      match found with
      | .error flaw => .error (some flaw)
      | .ok parts =>
        let index := Source.plainIndex d ⟨name, parts, condition?, isUnique,
          isUnique && parts.all (isFilled d), false, false, true, e.root,
          ⟨[], 0, false, false, false⟩⟩
        .ok (s.mapTables fun t =>
          if sameName t.definition.name d.name then
            { t with indexes := arrange (index :: t.indexes) }
          else t)

def outside? (databases : List String) : Option String :=
  databases.find? fun name => !sameName name "main"

def isOwnName (name : String) : Bool :=
  sameName name "sqlite_master" || sameName name "sqlite_schema"

/-- What is wrong with the table that something is done about. Views are not changed by themselves,
and tables are not changed otherwise. -/
def triggerFlaw? (s : Schema) (e : Entry) (t : TriggerText) : Option (Option Flaw) :=
  match t.database.toList.find? fun name => !sameName name "main", s.find? t.table with
  | some database, _ => some (some (.outsideTrigger t.written database))
  | none, none =>
    if isOwnName t.table then
      some (if e.agrees "trigger" t.name "sqlite_master" then some .triggerOnSystem else none)
    else some (some (.noSuchTable s!"main.{t.table}"))
  | none, some (.virtual _) => some (some .triggerOnVirtual)
  | none, some item =>
    let isView : Bool := match item with
      | .view _ => true
      | _ => false
    if !e.agrees "trigger" t.name item.name then some none
    else if s.triggers.any (sameName t.name) then some (some (.triggerExists t.written))
    else if (Token.lower item.name).startsWith "sqlite_" then some (some .triggerOnSystem)
    else if isView ∧ t.timing ≠ .instead then
      let timing := if t.timing = .before then "BEFORE" else "AFTER"
      some (some (.triggerOnView timing t.table))
    else if !isView ∧ t.timing = .instead then some (some (.triggerInstead t.table))
    else none

def addTrigger (s : Schema) (e : Entry) (t : TriggerText) : Taken :=
  match s.triggerFlaw? e t, t.actions with
  | some flaw?, _ => .error flaw?
  | none, .error flaw => .error (some flaw)
  | none, .ok databases =>
    match outside? databases with
    | some database => .error (some (.outsideTrigger t.name database))
    | none => .ok { s with triggers := t.name :: s.triggers }

/-- Takes in a statement. Rows that break checks do not count where none are written. -/
def take (s : Schema) (isFixed : Bool) (e : Entry) : Statement → Taken
  | .table name written text =>
    s.add e "table" name written ((Definition.ofText (!isFixed) name text).map fun d =>
      .table (makeTable d e.root))
  | .tableOf _ => .error none
  | .index isUnique name table key condition? => s.addIndex e isUnique name table key condition?
  | .view name written columns databases query =>
    s.add e "view" name written <|
      match outside? databases with
      | some database => .error (.outsideView written database)
      | none => .ok (.view ⟨name, columns, query⟩)
  | .virtual name written module arguments =>
    s.add e "table" name written (.ok (.virtual ⟨name, module, arguments⟩))
  | .trigger text => s.addTrigger e text

def place (s : Schema) (name : String) (root : Nat) : Taken :=
  match s.tables.find? fun t => t.indexes.any fun i => sameName i.name name with
  | none => .error (some .orphanIndex)
  | some t =>
    let isTaken := t.indexes.any fun i => !sameName i.name name && i.root == root
    if root < 2 ∨ isTaken then .error (some .rootPage)
    else .ok (s.mapIndexes (fun i => { i with root }) name)

def isStatement (text : String) : Bool :=
  match text.toList with
  | a :: b :: _ => a.toLower == 'c' && b.toLower == 'r'
  | _ => false

def pageNumber? (text : String) : Option Nat :=
  match text.toNat? with
  | some n => if n < 0x100000000 then some n else none
  | none => none

/-- Takes in a row, given by its five columns. A row has a root, and a statement unless it is that
of an index that came with its table. -/
def takeRow (s : Schema) (im : Image) (cells : List (Option String)) : Taken :=
  let text (i : Nat) : Option String := (cells[i]?).join
  match text 3 with
  | none => .error none
  | some rootText =>
    let root? := (pageNumber? rootText).filter (· ≤ im.pageCount)
    let statement := (text 4).getD ""
    if isStatement statement then
      match root?, Statement.ofString statement with
      | none, _ => .error (some .rootPage)
      | _, .error flaw => .error (some flaw)
      | some root, .ok made => s.take im.isFixed ⟨text 0, text 1, text 2, root⟩ made
    else
      match text 1 with
      | none => .error none
      | some name =>
        if !statement.isEmpty then .error none
        else
          match root? with
          | none => if s.hasIndex name then .error (some .rootPage) else .error (some .orphanIndex)
          | some root => s.place name root

end Schema

namespace Image

def statedSchema (im : Image) : Except Error Schema :=
  if !im.formatSupported then .error .unsupportedFormat
  else
    (im.entries .table 1).foldM (fun s e => do
      let cells ← (List.range 5).mapM fun i => do
        return (← Record.cellAt? e.payload i).bind im.cellText?
      match s.takeRow im cells with
      | .ok s => return s
      | .error flaw? => throw (.malformedSchema ((cells[1]?).join.getD "?") flaw?)) ⟨[], []⟩

end Image

end Motif.Database
