import Motif.Database.Group
import Motif.Database.Join
import Motif.Database.Plan.Known

/-!
The rows of the tables of a query, in the order of a plan, and what they come to: moments, one for
each row or for each group.
-/

set_option autoImplicit false

namespace Motif.Database

open Sql

namespace Meaning

def isSteadyTo : Nat → Meaning → Bool
  | 0, _ => false
  | n + 1, e =>
    let isSteady : Bool := match e.operation with
      | .call name => !(Function.named? name).any Function.changes
      | operation => !operation.asks
    isSteady && e.parts.all (isSteadyTo n)

def isSteady (e : Meaning) : Bool := isSteadyTo Expr.mostLevels e

/-- Whether an expression is made of what groups are made by, and of constants; goes down as many
levels as are given. -/
def isGroupedTo (groups : List Meaning) : Nat → Meaning → Bool
  | 0, _ => false
  | n + 1, e =>
    let isKey := groups.any fun g =>
      g.difference e != .more && sameName (g.collation.getD "binary") "binary"
    let isOpen : Bool := match e.operation with
      | .column _ | .aggregate .. => false
      | .call name => !(Function.named? name).any Function.changes
      | operation => !operation.asks
    isKey || (isOpen && e.parts.all (isGroupedTo groups n))

end Meaning

/-- A table of a query, ready to be planned and to be read. -/
structure Opened where
  member : Member
  supply : Surroundings → Supply

namespace Leaf

/-- The conditions of a join that speak of one table alone, so that its rows may be left out before:
the last one comes first. -/
def ownTests (leaf : Leaf Relation) (table others : Nat) (tests : List Test) : List Meaning :=
  let isOwn (t : Test) (e : Meaning) : Bool :=
    (if leaf.keepsLeft then t.home? = some table else t.home?.isNone) &&
      (e.reads.all fun r => r.depth = 0 && r.table = table) && e.isSteady
  let own := tests.flatMap fun t => t.meaning.conjuncts.filter (isOwn t)
  own.reverse.map fun e =>
    e.renumber (fun _ => 0) fun rows =>
      List.replicate table .missing ++ rows ++ List.replicate others .missing

def place (table : Nat) (t : Track) : Track :=
  let own (e : Meaning) : Meaning := e.renumber (fun _ => table) fun rows => rows[table]?.toList
  let key : Track.Key → Track.Key
    | .expression e => .expression (own e)
    | key => key
  { t with
    parts := t.parts.map fun p => { p with key := key p.key }
    conditions := t.conditions.map own }

def surveyOf (expected : Logarithm) : Survey := ⟨true, expected, logarithm 4, false, []⟩

def settle (fields : List Field) (row : Row) : Except Error Row := do
  let cells ← row.cells fields.length
  return .ofCells ((cells.zip fields).map fun (c, f) =>
    if f.affinity = some .real then c.asReal else c)

/-- Gets a table ready that has others behind it. -/
def opened (leaf : Leaf Relation) (table others : Nat) (tests : List Test) :
    Except Error Opened := do
  let r := leaf.relation
  let needs := leaf.arguments.foldl (fun found e => found ||| e.tables) Tables.none
  let member (survey : Survey) (module? : Option (Logarithm × Logarithm)) : Member :=
    ⟨survey, r.stored?.isNone, r.reads.isEmpty && !r.isFleeting, module?, needs, leaf.keepsLeft,
      leaf.isFixed, leaf.use, leaf.columns, r.fields.map Field.affinity⟩
  match r.stored?, r.given? with
  | some t, _ =>
    let read (access : Approach) : Flow Row :=
      match access with
      | .track i => t.read t.survey.tracks[i]? leaf.columns
      | _ => t.read none leaf.columns
    let survey := { t.survey with tracks := t.survey.tracks.map (place table) }
    return ⟨member survey none, fun _ => ⟨read, none, t.identity⟩⟩
  | none, some given =>
    let rows (around : Surroundings) (front : List Row) : Flow Row :=
      .ofExcept do
        return given (← leaf.arguments.mapM fun e => e.value (.ofRows (front :: around)))
    return ⟨member (surveyOf Relation.plainRows) (some (0, Relation.moduleRows)), fun around =>
      ⟨fun _ => .ofList [], some (rows around), fun r => do return [← r.number]⟩⟩
  | none, none =>
    let own := if r.isKept then [] else leaf.ownTests table others tests
    let answer ← r.answer own
    return ⟨member (surveyOf answer.expected) r.work?, fun around =>
      let found := answer.rows around
      let rows := if r.work?.isSome then found else found.mapM (settle r.fields)
      ⟨fun _ => rows, none, fun r => do return [← r.number]⟩⟩

end Leaf

namespace Block

def mostTables : Nat := 64

def grounds (members : List Member) : Grounds :=
  let keys (t : Track) : List Meaning := t.parts.filterMap fun p =>
    match p.key with
    | .expression e => some e
    | _ => none
  ⟨fun table => (members[table]?.map fun m => m.survey.tracks.flatMap keys).getD [],
    fun table => members[table]?.any fun m => m.module?.isSome, .none⟩

def isAhead (t : Test) : Bool :=
  match t.home? with
  | some home => t.meaning.conjuncts.any fun e => Tables.only home ≤ e.tables >>> 1
  | none => false

/-- Plans a query, and tells how its rows are found. -/
def join (b : Block Relation) (wish : Wish) (results : List (Meaning × Direction)) :
    Except Error (Plan × (Surroundings → Flow (List Row))) := do
  let flaw (f : Flaw) : Except Error Unit := .error (.query f)
  if mostTables < b.leaves.length then flaw (.tablesTooMany mostTables)
  if b.tests.any isAhead then flaw .onAhead
  let tests := if 1 < b.leaves.length then Test.settle b.tests else b.tests
  let opened ← b.leaves.zipIdx.mapM fun (leaf, table) =>
    leaf.opened table (b.leaves.length - 1 - table) tests
  let members := opened.map Opened.member
  let g := grounds members
  let joined : Joined := ⟨members, Clause.ofTests g tests, wish⟩
  match joined.plan? g results with
  | none => .error (.query .noSolution)
  | some plan =>
    return (plan, fun around =>
      Join.rows members (opened.map fun o => o.supply around) plan tests around)

def directions (b : Block Relation) : Except Error (List (Meaning × Direction)) :=
  if !b.isDistinct then .ok []
  else
    b.outputs.mapM fun o => do
      return (o.meaning, .plain (← Meaning.collationOf o.meaning.collation))

def mostRows : Logarithm := 320

def wanted? (b : Block Relation) : Option Logarithm :=
  (b.limit?.bind Meaning.smallInteger?).bind fun n =>
    if 0 < n then (some (logarithm n.toNat)).filter (· < mostRows) else none

def moveTests (b : Block Relation) : Block Relation :=
  if b.groups.isEmpty then b
  else
    let groups := b.groups.map Prod.fst
    let isRow (e : Meaning) : Bool := e.isGroupedTo groups Expr.mostLevels
    let (rows, having) := (b.having.flatMap Meaning.conjuncts).partition isRow
    { b with tests := b.tests ++ rows.map fun e => ⟨e, none⟩, having }

def gather (b : Block Relation) : Block Relation :=
  let isSame (o : Output) (key : Meaning × Direction) : Bool :=
    o.meaning.same key.1 && !key.2.descending && key.2.nullsFirst != some false
  if b.isDistinct ∧ !b.isGrouped ∧ b.outputs.length = b.order.length ∧
      (b.outputs.zip b.order).all (fun (o, key) => isSame o key) then
    { b with isGrouped := true, groups := b.order }
  else b

def keys (b : Block Relation) : List (Meaning × Direction) :=
  if b.groups.length = b.order.length then
    (b.groups.zip b.order).map fun ((e, d), _, o) => (e, { d with descending := o.descending })
  else b.groups

def asked (b : Block Relation) : List Meaning :=
  b.outputs.map Output.meaning ++ b.order.map Prod.fst ++ b.having

def isFilled (b : Block Relation) : Meaning → Bool
  | ⟨operation, parts, _, _, _, _, _, _, _, _, _⟩ =>
    match operation, parts with
    | .positive, [e] | .negative, [e] => isFilled b e
    | .literal l, _ => l ≠ .null
    | .column r, _ =>
      r.depth = 0 && b.leaves[r.table]?.any fun leaf =>
        !leaf.keepsLeft && r.place.all fun place => leaf.relation.fields[place]?.any Field.isFilled
    | _, _ => false

/-- The order in which the only value that is asked for comes first. -/
def extremeWish? (b : Block Relation) : Option Wish :=
  match Extreme.aggregates b.asked with
  | [e] =>
    if !b.groups.isEmpty ∨ !b.having.isEmpty then none
    else
      (Extreme.ofMeaning? e).bind fun x =>
        if x.filter?.isSome then none
        else
          let isLeast := x.wanted = .lt
          let nulls := if isLeast ∧ !b.isFilled x.argument then some false else none
          let d : Direction := ⟨x.collation, !isLeast, nulls⟩
          some ⟨[(x.argument, d)], if isLeast then .least else .greatest, none, false⟩
  | _ => none

def wish (b : Block Relation) : Wish :=
  if !b.groups.isEmpty then
    let isSorted := b.groups.length = b.order.length &&
      (b.groups.zip b.order).all fun ((e, _), o, d) => e.same o && !d.isApart
    ⟨b.keys, .group isSorted, none, false⟩
  else if b.isGrouped then b.extremeWish?.getD ⟨[], .order, none, false⟩
  else ⟨b.order, .order, b.wanted?, b.isDistinct⟩

/-- What a query comes to, row by row or group by group: how many there are, whether they are in the
order that is wanted, whether none comes twice, and the moments. -/
structure Found where
  expected : Logarithm
  isOrdered : Bool
  isDistinct : Bool
  moments : Surroundings → Flow Moment

def mostGroups : Logarithm := 66

/-- Finds the rows of a query, or its groups. -/
def find (b : Block Relation) : Except Error Found := do
  let wish := b.wish
  let (plan, rows) ← b.join wish (← b.directions)
  let most := b.wanted?.getD mostRows
  let isOrdered := plan.ordered = wish.terms.length
  if !b.isGrouped then
    let moments (around : Surroundings) : Flow Moment :=
      (rows around).map fun rows => .ofRows (rows :: around)
    return ⟨min most plan.expected, isOrdered, plan.isDistinct, moments⟩
  else
    let extremes := (Extreme.aggregates b.asked).filterMap Extreme.ofMeaning?
    let missing := b.leaves.map fun _ => Row.missing
    let moments (around : Surroundings) : Flow Moment :=
      (Group.moments around b.keys isOrdered extremes missing (rows around)).filterM fun m =>
        Meaning.allTrue m b.having
    return ⟨if b.groups.isEmpty then 0 else min most mostGroups, b.groups.isEmpty, false, moments⟩

def rowAt (outputs : List Output) (m : Moment) : Row :=
  ⟨fun i =>
    match outputs[i]? with
    | some o => o.meaning.value m
    | none => .ok .null, .ok .null, false⟩

def distinct (results : List (Meaning × Direction)) (moments : Flow Moment) : Flow Moment :=
  let keyed := moments.mapM fun m => do return (← results.mapM fun k => k.1.value m, m)
  ⟨(Direction.distinct (results.map Prod.snd) keyed.items).map Prod.snd, keyed.fault?⟩

def sort (order : List (Meaning × Direction)) (moments : Flow Moment) : Flow Moment :=
  (moments.mapM fun m => do return (← order.mapM fun o => o.1.value m, m)).whole fun keyed =>
    .ok (.ofList ((Direction.sort (order.map Prod.snd) keyed).map Prod.snd))

def bound? (e? : Option Meaning) (around : Surroundings) : Except Error (Option Nat) := do
  match e? with
  | none => return none
  | some e =>
    match (← e.value (.ofRows ([] :: around))).prefer .numeric with
    | .integer n => return if n < 0 then none else some n.toNat
    | _ => .error (.query .mismatch)

def cut (limit? offset? : Option Meaning) (around : Surroundings) (rows : Flow Row) : Flow Row :=
  .ofExcept do
    let limit? ← bound? limit? around
    let offset := (← bound? offset? around).getD 0
    match limit? with
    | some limit => return (rows.take (limit + offset)).drop offset
    | none => return rows.drop offset

def rows (b : Block Relation) (found : Found) (results : List (Meaning × Direction))
    (around : Surroundings) (moments : Flow Moment) : Flow Row :=
  let once := if b.isDistinct ∧ !found.isDistinct then distinct results moments else moments
  let isOrdered := b.order.isEmpty || (found.isOrdered && !b.isGrouped)
  let sorted := if isOrdered then once else sort b.order once
  cut b.limit? b.offset? around (sorted.map (rowAt b.outputs))

end Block

end Motif.Database
