import Motif.Database.Block.Answer
import Motif.Database.Columns
import Motif.Database.Common
import Motif.Database.Recursion
import Motif.Database.Statistics
import Motif.Database.Virtual
import Motif.Database.Virtual.Trees

/-!
Opening tables, views and queries: what their names stand for is looked up, and they become
relations.
-/

set_option autoImplicit false

namespace Motif.Database

open Sql
open Context (flaw)
open Select (Naming Strand)

/-- What names of tables stand for. -/
structure Catalog where
  image : Image
  schema : Schema
  /-- The queries that have been given names: the nearest first, with what is wrong with speaking of
  them where they are being opened. -/
  commons : List (List (Common Query × Option Flaw))
  opened : List String

namespace Catalog

def bare (cat : Catalog) : Catalog := { cat with commons := [], opened := [] }

def common? (name : String) : List (List (Common Query × Option Flaw)) →
    Option (Common Query × Option Flaw × List (List (Common Query × Option Flaw)))
  | [] => none
  | near :: far =>
    match near.find? fun c => sameName c.1.name name with
    | some (c, flaw?) => some (c, flaw?, near :: far)
    | none => common? name far

def mark (name : String) (flaw : Flaw) :
    List (List (Common Query × Option Flaw)) → List (List (Common Query × Option Flaw))
  | [] => []
  | near :: far =>
    near.map (fun c => if sameName c.1.name name then (c.1, some flaw) else c) :: far

def schemaTable : Schema.Table :=
  let column (name : String) (type : String) : Column :=
    ⟨name, type, Definition.plainCollation, .null, none, false⟩
  let columns :=
    [column "type" "text", column "name" "text", column "tbl_name" "text", column "rootpage" "int",
      column "sql" "text"]
  let d : Definition := ⟨"sqlite_master", columns, none, [], true⟩
  Schema.makeTable d 1

def add (cat : Catalog) (body : Body Term Query) : Catalog :=
  { cat with commons := (Common.settled body).map (fun c => (c, none)) :: cat.commons }

/-- Puts names to the columns of a view or of a query in another. It has to be known how they are
compared. -/
def named (names : List String) (r : Relation) : Except Error Relation := do
  r.fields.forM fun f => discard (Meaning.collationOf f.collation)
  let names := if names.isEmpty then r.fields.map Field.name else names
  return (r.rename (Select.columnNames names)).settle

/-- The parts at the end of a query that speak of it: they are all put together in the same way. -/
def stepsOf (name : String) (others : List (Compound × Branch Term Query)) :
    List (Compound × Branch Term Query) :=
  match others.getLast? with
  | some (compound, _) =>
    if compound = .union ∨ compound = .unionAll then
      (others.reverse.takeWhile fun part =>
        part.1 = compound ∧ Select.readsOf name part.2 ≠ 0).reverse
    else []
  | none => []

def current (shape : Relation) : Relation :=
  { Relation.ofRows shape.fields (.ofList []) with
    hasNumbers := false, isFleeting := true
    answer := fun _ =>
      .ok ⟨Relation.plainRows, fun around => .ofList (around.getLast?.getD [])⟩ }

/-- How a table may be read: there may be an index by which it has to be. -/
def useOf (cat : Catalog) (table : String) (r : Relation) : IndexUse → Except Error TrackUse
  | .free => .ok .free
  | .never => .ok .never
  | .by name =>
    let tracks := (r.stored?.map fun t => t.survey.tracks).getD []
    let isThere := r.stored?.isSome && (cat.schema.table? table).any fun t =>
      t.indexes.any fun i => sameName i.name name
    if isThere then
      .ok (.by ((tracks.findIdx? fun t => sameName t.name name).getD tracks.length))
    else flaw (.noSuchIndex name)

/-- A table of a query: the name that it goes by, how it may be read, and what it is given if it is a
function. -/
structure Place where
  relation : Relation
  label : String
  use : TrackUse
  arguments : List Term

/-- The tables of a query, where the rows of one that is kept are counted only when it comes first. -/
def countOnce : List (Place × Item Term Query) → List (Place × Item Term Query)
  | [] => []
  | (p, item) :: rest =>
    let isSame (other : Item Term Query) : Bool :=
      match item.origin, other.origin with
      | .table none a _, .table none b _ => sameName a b
      | _, _ => false
    let uncount (other : Place × Item Term Query) : Place × Item Term Query :=
      if p.relation.isKept ∧ isSame other.2 then
        ({ other.1 with relation := other.1.relation.uncounted }, other.2)
      else other
    (p, item) :: (countOnce rest).map uncount

def followed (limit? : Option Meaning) : Logarithm :=
  match (limit?.bind Meaning.smallInteger?).filter (0 < ·) with
  | some n => min Block.mostRows (logarithm n.toNat)
  | none => Block.mostRows

def rowOf (meanings : List Meaning) : Block Relation :=
  let outputs := meanings.zipIdx.map fun (m, i) => (⟨s!"column{i + 1}", none, m, none⟩ : Output)
  ⟨[], [], outputs, false, meanings.any Meaning.hasAggregate, [], [], [], false, none, none, false⟩

def together (parts : List (Compound × Strand)) (order : List (Nat × Direction × String))
    (limit? offset? : Option Meaning) : Relation :=
  match parts.map fun (compound, p) => (compound, p.block) with
  | [] => .ofRows [] (.ofList [])
  | [(_, b)] => ({ b with limit?, offset? } : Block Relation).relation .alone
  | (_, first) :: others =>
    (⟨first, others, order, limit?, offset?⟩ : Union Relation).relation

mutual

/-- Opens what a name of a table stands for. -/
def openTable : Nat → Catalog → Option String → String → Except Error Relation
  | 0, _, _, _ => flaw .tooDeep
  | n + 1, cat, database?, name =>
    match if database?.isNone then common? name cat.commons else none with
    | some (_, some own, _) => flaw own
    | some (c, none, commons) => openCommon n { cat with commons } c
    | none =>
      match cat.schema.find? name with
      | some (.table t) => return cat.image.tableRelation t
      | some (.view v) => openView n cat v
      | some (.virtual v) => v.relation fun q => openQuery n cat.bare [] .known q
      | none =>
        match TableFunction.named? name with
        | some f => return f.relation
        | none =>
          if Schema.isOwnName name then .ok (cat.image.tableRelation schemaTable)
          else
            let place := database?.or (if cat.opened.isEmpty then none else some "main")
            flaw (.noSuchTable ((place.map fun p => p ++ ".").getD "" ++ name))

/-- Opens a view. It knows nothing of the query that it stands in, and must not stand in itself. -/
def openView : Nat → Catalog → View → Except Error Relation
  | 0, _, _ => flaw .tooDeep
  | n + 1, cat, v => do
    if cat.opened.any (sameName v.name) then flaw (.circularView v.name)
    let own := { cat with commons := [], opened := v.name :: cat.opened }
    let r ← openQuery n own [] .known v.query
    if !v.columns.isEmpty ∧ v.columns.length ≠ r.fields.length then
      flaw (.viewColumns v.columns.length v.name r.fields.length)
    named v.columns r

/-- Opens a query that has been given a name. One that is made of itself is worked out row by
row. -/
def openCommon : Nat → Catalog → Sql.Common Query → Except Error Relation
  | 0, _, _ => flaw .tooDeep
  | n + 1, cat, c => do
    let during (flaw : String → Flaw) : Catalog :=
      { cat with commons := mark c.name (flaw c.name) cat.commons }
    let cat := during .circularCommon
    match c.query with
    | .of body =>
      let steps := stepsOf c.name body.others
      match steps.find? fun s => 1 < Select.readsOf c.name s.2 with
      | some _ => flaw (.commonRepeated c.name)
      | none => pure ()
      let checkWidth (r : Relation) : Except Error Unit :=
        if !c.columns.isEmpty ∧ c.columns.length ≠ r.fields.length then
          flaw (.commonCount c.name r.fields.length c.columns.length)
        else .ok ()
      if steps.isEmpty then
        let r ← openQuery n cat [] .written c.query
        checkWidth r
        let r ← named c.columns r
        return { r with hasNumbers := false, isKept := c.isKept = some true }
      else
        let base := body.others.take (body.others.length - steps.length)
        let first ← openParts n (cat.add body) [] none .written ((.unionAll, body.first) :: base)
        let start := together first [] none none
        checkWidth start
        let shape := { ← named c.columns start with hasNumbers := false, blocks := [] }
        let doubled := (during .commonDoubled).add body
        let branches ← openParts n doubled [] (some (c.name, current shape)) .written steps
        match branches.find? fun b => b.2.block.outputs.length ≠ start.fields.length, steps.head? with
        | some _, some (compound, _) => flaw (.branchColumns compound.text)
        | _, _ => pure ()
        let parts := first ++ branches
        let ds ← Union.directions (parts.map fun p => p.2.block) start.fields.length
        let order ← Select.compoundOrder (parts.map Prod.snd) body.order
        let limit? ← openBound n cat body.limit
        let offset? ← openBound n cat body.offset
        let answers ← branches.mapM fun b => b.2.block.answer .again
        let step (cells : List Cell) : Except Error (List (List Cell)) := do
          let found ← answers.mapM fun a =>
            ((a.rows [[.ofCells cells]]).mapM (Row.cells start.fields.length)).all
          return found.flatten
        let mayRepeat := steps.all fun s => s.1 = .unionAll
        let walk : Recursion := ⟨mayRepeat, ds, order.map fun o => (o.1, o.2.1), step⟩
        let rows (around : Surroundings) : Flow Row :=
          .ofExcept do
            let limit ← Block.bound? limit? around
            let offset := (← Block.bound? offset? around).getD 0
            let found := start.content.whole fun queue =>
              .ok (walk.rows (limit.map (· + offset)) queue)
            return Block.cut limit? offset? around (found.map .ofCells)
        return { shape with
          isKept := c.isKept = some true, answer := fun _ => .ok ⟨followed limit?, rows⟩ }

def openBound : Nat → Catalog → Option Term → Except Error (Option Meaning)
  | 0, _, _ => flaw .tooDeep
  | n + 1, cat, bound? =>
    let context : Context := ⟨[], fun s q => openQuery n cat s .written q, false⟩
    bound?.mapM (context.meaning Expr.mostLevels)

def openQuery : Nat → Catalog → List Scope → Naming → Query → Except Error Relation
  | 0, _, _, _, _ => flaw .tooDeep
  | n + 1, cat, scopes, naming, .of body => do
    let cat := cat.add body
    let limit? ← openBound n cat body.limit
    let offset? ← openBound n cat body.offset
    match body.first, body.others with
    | .select core, [] =>
      let p ← openCore n cat scopes none naming body.order core
      return ({ p.block with limit?, offset? } : Block Relation).relation .alone
    | first, others =>
      let parts ← openParts n cat scopes none naming ((.unionAll, first) :: others)
      return together parts (← Select.compoundOrder (parts.map Prod.snd) body.order) limit? offset?

/-- Opens queries that are put together, the last one first. They have as many columns. -/
def openParts : Nat → Catalog → List Scope → Option (String × Relation) → Naming →
    List (Compound × Branch Term Query) → Except Error (List (Compound × Strand))
  | 0, _, _, _, _, _ => flaw .tooDeep
  | n + 1, cat, scopes, given?, naming, branches =>
    branches.zipIdx.foldrM (fun ((compound, branch), place) others => do
      let own ← openBranch n cat scopes given? naming (place = 0) branch
      let width (p : Strand) : Nat := p.block.outputs.length
      match own.getLast?, others.head? with
      | some a, some (next, b) => if width a ≠ width b then flaw (.branchColumns next.text)
      | _, _ => pure ()
      let rest := (own.drop 1).map fun p => (Compound.unionAll, p)
      return (own.take 1).map (fun p => (compound, p)) ++ rest ++ others) []

/-- Opens a part of a query. A table may be given to it by a name. Several rows that are written out
are as many queries if they come first, and else the rows of one. -/
def openBranch : Nat → Catalog → List Scope → Option (String × Relation) → Naming → Bool →
    Branch Term Query → Except Error (List Strand)
  | 0, _, _, _, _, _, _ => flaw .tooDeep
  | n + 1, cat, scopes, given?, naming, _, .select core => do
    let p ← openCore n cat scopes given? naming [] core
    if given?.isSome then
      if p.block.hasPasses then flaw .commonWindowed
      if p.block.isGrouped then flaw .commonGrouped
    return [p]
  | n + 1, cat, scopes, _, _, isFirst, .values rows => do
    let around : Scope := ⟨[], [], [], true, true⟩
    let context : Context := ⟨around :: scopes, fun s q => openQuery n cat s .written q, false⟩
    let meaning := context.meaning Expr.mostLevels
    let parts ← rows.foldrM (fun row others => do
      let p : Strand := ⟨rowOf (← row.mapM meaning), meaning⟩
      match others.head? with
      | some q =>
        if p.block.outputs.length ≠ q.block.outputs.length then flaw .valueColumns
      | none => pure ()
      return p :: others) []
    if isFirst ∨ parts.length < 2 then return parts
    else
      let r := together (parts.map fun p => (.unionAll, p)) [] none none
      let leaf : Leaf Relation := ⟨r, false, false, .free, [], List.range r.fields.length⟩
      let bound : Bound := ⟨"", r.fields, true, [], false⟩
      let block : Block Relation :=
        ⟨[leaf], [], Select.allOutputs [bound] none, false, false, [], [], [], false, none, none, false⟩
      return [⟨block, (⟨⟨[bound], [], [], false, false⟩ :: scopes, context.openQuery, false⟩ :
        Context).meaning Expr.mostLevels⟩]

/-- Opens a table of a join. -/
def openItem : Nat → Catalog → List Scope → Option (String × Relation) → Item Term Query →
    Except Error Place
  | 0, _, _, _, _ => flaw .tooDeep
  | n + 1, cat, scopes, given?, item => do
    match item.origin with
    | .table database? name use =>
      let label := item.label.getD name
      match given?.filter fun g => database?.isNone && sameName g.1 name with
      | some (_, r) => return ⟨r, label, .free, []⟩
      | none =>
        let r ← openTable n cat database? name
        return ⟨r, label, ← cat.useOf name r use, []⟩
    | .call database? name arguments =>
      let isTable := (common? name cat.commons).isSome || (cat.schema.find? name).isSome
      let r ← openTable n cat database? name
      match if isTable then none else TableFunction.named? name with
      | some f =>
        if f.most < arguments.length then flaw (.argumentsTooMany name f.most)
        return ⟨r, item.label.getD name, .free, arguments⟩
      | none => flaw (.noFunctionTable name)
    | .query q =>
      return ⟨← named [] (← openQuery n cat scopes .written q), item.label.getD "", .free, []⟩
    | .join q =>
      let r ← openQuery n cat scopes .written q
      let names := Select.columnNames (r.fields.map Field.name)
      return ⟨r.rename names, item.label.getD "", .free, []⟩

/-- Opens the tables of a query and finds out what its expressions mean. -/
def openCore : Nat → Catalog → List Scope → Option (String × Relation) → Naming →
    List (Order Term) → Sql.Core Term Query → Except Error Strand
  | 0, _, _, _, _, _, _ => flaw .tooDeep
  | n + 1, cat, scopes, given?, naming, order, core => do
    let places ← core.items.mapM (openItem n cat scopes given?)
    let bounds ← (places.zip core.items).foldlM (fun (bounds : List Bound) (p, item) => do
      let common ← Select.commonColumns bounds p.relation item
      let own : Bound :=
        ⟨p.label, p.relation.fields, p.relation.hasNumbers, common, item.keepsLeft⟩
      return bounds ++ [own]) []
    let labels := core.shown.filterMap fun shown =>
      match shown with
      | .one e (some label) _ => some (label, e)
      | _ => none
    let meaningIn (labels : List (String × Term)) (aggregates windows : Bool) :
        Term → Except Error Meaning :=
      let scope : Scope := ⟨bounds, labels, core.windows, aggregates, windows⟩
      (⟨scope :: scopes, fun s q => openQuery n cat s .written q, false⟩ : Context).meaning
        Expr.mostLevels
    let meaning := meaningIn labels false false
    let outputs := (← core.shown.mapM
      (Select.outputs naming bounds (meaningIn [] true true))).flatten
    if core.having.isSome ∧ core.groups.isEmpty then flaw .groupRequired
    let having ← core.having.toList.mapM (meaningIn labels true false)
    let condition ← core.condition.toList.mapM meaning
    let joining ← core.items.zipIdx.mapM fun (item, table) => do
      let common := (bounds[table]?.map Bound.common).getD []
      let home? := if item.keepsLeft then some table else none
      let tests := (← Select.commonTests bounds table common) ++ (← item.on.toList.mapM meaning)
      return tests.map fun e => (⟨e, home?⟩ : Test)
    let tests := condition.map (fun e => (⟨e, none⟩ : Test)) ++ joining.flatten
    let leaves ← (countOnce (places.zip core.items)).zipIdx.mapM fun ((p, item), table) => do
      let arguments ← p.arguments.mapM meaning
      let given := match p.relation.given? with
        | some _ => Select.given p.relation.fields table item.keepsLeft tests arguments
        | none => []
      return (⟨p.relation, item.keepsLeft, item.isFixed, p.use, given, []⟩ : Leaf Relation)
    let isGrouped := !core.groups.isEmpty || outputs.any fun o => o.meaning.hasAggregate
    let order ← Select.orderOf outputs isGrouped (meaningIn labels true true) order
    let groups ← core.groups.zipIdx.mapM fun (e, i) => do
      match (← Select.placeOf? "GROUP" outputs.length i e).bind fun place => outputs[place]? with
      | some o => return Select.compared e o.meaning
      | none => meaningIn labels true false e
    if groups.any Meaning.hasAggregate then flaw .groupedAggregate
    let groups ← groups.mapM fun m => do
      return (m, Direction.plain (← Meaning.collationOf m.collation))
    let isComplex := core.shown.any fun shown =>
      match shown with
      | .one e _ _ => Select.isComplex e
      | _ => false
    let block : Block Relation :=
      ⟨leaves, tests, outputs, core.isDistinct, isGrouped, groups, having, order, false,
        none, none, isComplex⟩
    return ⟨block.noteReads, meaningIn labels true true⟩

end

def mostLevels : Nat := 1000

end Catalog

end Motif.Database
