import Motif.Database.Plan

/-!
Rows of several tables side by side: for each row of a table those of the next one, in the order of a
plan.
-/

set_option autoImplicit false

namespace Motif.Database

open Sql

/-- A table of a join, ready to be read: its rows in some order, or behind rows of other tables, and
what they are told apart by. -/
structure Supply where
  rows : Approach → Flow Row
  given? : Option (List Row → Flow Row)
  identity : Row → Except Error (List Cell)

/-- The rows of a table in the order in which they are found. -/
inductive Finding where
  | fixed (rows : Flow Row)
  | given (rows : List Row → Flow Row)
  | either (branches : List (List Meaning × Finding))

/-- The conditions that are looked at when a table is read: those that tell which rows fit, and the
others. -/
structure Level.Tests where
  fit : List Meaning
  others : List Meaning

namespace Flow

variable {α : Type}

def reverse (flow : Flow α) : Flow α := ⟨flow.items.reverse, flow.fault?⟩

end Flow

namespace Join

def allTrue (around : Surroundings) (rows : List Row) (tests : List Meaning) :
    Except Error Bool :=
  Meaning.allTrue (.ofRows (rows :: around)) tests

def sort (columns : List Nat) (flow : Flow Row) : Flow Row :=
  let ds := columns.map fun _ => Direction.plain .binary
  (flow.mapM fun r => do return (← columns.mapM r.cell, r)).whole fun keyed =>
    .ok (.ofList ((Direction.sort ds keyed).map Prod.snd))

def finding (supply : Supply) : Nat → Approach → Finding
  | n + 1, .either branches => .either (branches.map fun (es, access) => (es, finding supply n access))
  | _, .sorted columns => .fixed (sort columns (supply.rows .plain))
  | _, access =>
    match supply.given? with
    | some given => .given given
    | none => .fixed (supply.rows access)

def partOf (around : Surroundings) (key : Track.Key) (table : Nat) (rows : List Row) :
    Except Error Cell :=
  let row := (rows[table]?).getD .missing
  match key with
  | .number => row.number
  | .column place => row.cell place
  | .expression e => e.value (.ofRows (rows :: around))

def setApart (isNull : Row → Except Error Bool) (atFront : Bool) (flow : Flow Row) : Flow Row :=
  (flow.mapM fun r => do return (← isNull r, r)).whole fun keyed =>
    let (nulls, others) := keyed.partition Prod.fst
    .ok (.ofList ((if atFront then nulls ++ others else others ++ nulls).map Prod.snd))

/-- The rows that are found for one alternative after the other; those that have been found before do
not come again. -/
def findEach (supply : Supply) (passes : Row → List Meaning → Except Error Bool)
    (found : Finding → Flow Row) : List (List Cell) → List (List Meaning × Finding) → Flow Row
  | _, [] => .ofList []
  | seen, (es, finding) :: rest =>
    let own := ((found finding).filterM fun r => passes r es).mapM fun r => do
      return (← supply.identity r, r)
    let fresh := own.items.foldl (fun (kept : List (List Cell × Row)) (key, r) =>
      if seen.contains key ∨ kept.any fun k => k.1 = key then kept else kept ++ [(key, r)]) []
    (⟨fresh.map Prod.snd, own.fault?⟩ : Flow Row).append fun _ =>
      findEach supply passes found (seen ++ fresh.map Prod.fst) rest

def find (supply : Supply) (passes : Row → List Meaning → Except Error Bool) (front : List Row) :
    Nat → Finding → Flow Row
  | n + 1, .either branches => findEach supply passes (find supply passes front n) [] branches
  | _, .fixed rows => rows
  | _, .given rows => rows front
  | 0, .either _ => .ofList []

def rowsAt (around : Surroundings) (supply : Supply) (level : Level) (finding : Finding)
    (front : List Row) : Flow Row :=
  let rows (r : Row) : List Row := front.set level.table r
  let passes (r : Row) (es : List Meaning) : Except Error Bool := allTrue around (rows r) es
  let found := find supply passes front Expr.mostLevels finding
  let turned := if level.isBackward then found.reverse else found
  match level.apart? with
  | some key =>
    let isNull (r : Row) : Except Error Bool := do
      return (← partOf around key level.table (rows r)).isNull
    setApart isNull level.isBackward turned
  | none => turned

/-- Puts the rows of a table to others. Where none fits a missing row may take their place. -/
def step (around : Surroundings) (supply : Supply) (keepsLeft : Bool) (level : Level)
    (tests : Level.Tests) (outer : Flow (List Row)) : Flow (List Row) :=
  let finding := finding supply Expr.mostLevels level.access
  outer.flatMap fun front =>
    let found := (rowsAt around supply level finding front).map fun r => front.set level.table r
    let fit := found.filterM fun rows => allTrue around rows tests.fit
    let kept :=
      if keepsLeft ∧ fit.items.isEmpty ∧ fit.fault?.isNone then
        .ofList [front.set level.table .missing]
      else fit
    kept.filterM fun rows => allTrue around rows tests.others

/-- The conditions of some tests that are looked at together: those that lead to rows come first, and
those that ask for rows of queries last. -/
def arrange (uses : List Meaning) (tests : List Meaning) : List Meaning :=
  let (first, rest) := tests.partition fun e => uses.any e.same
  let (last, middle) := rest.partition Meaning.hasQuery
  first ++ middle ++ last

/-- The tests of each level: they are looked at as soon as all tables are there that they speak of,
and those that speak of none at once. -/
def testsOf (members : List Member) (tests : List Test) :
    Tables → List Level → List Level.Tests
  | _, [] => []
  | known, level :: rest =>
    let next := known ||| .only level.table
    let tablesOf (t : Test) : Tables := t.meaning.tables ||| (t.home?.map Tables.only).getD .none
    let (ready, others) := tests.partition fun t => (tablesOf t).within next
    let keepsLeft := (members[level.table]?).any Member.keepsLeft
    let (fit, behind) := ready.partition fun t => !keepsLeft || t.home? = some level.table
    let own (tests : List Test) : List Meaning := arrange level.uses (tests.map Test.meaning)
    ⟨own fit, own behind⟩ :: testsOf members others next rest

def rows (members : List Member) (supplies : List Supply) (plan : Plan) (tests : List Test)
    (around : Surroundings) : Flow (List Row) :=
  let tests := tests.flatMap fun t => t.meaning.conjuncts.map fun e => ({ t with meaning := e } : Test)
  let (constant, others) := tests.partition fun t => t.home?.isNone && t.meaning.tables = 0
  let start : Flow (List Row) := (Flow.ofList [members.map fun _ => Row.missing]).filterM fun rows =>
    allTrue around rows (constant.map Test.meaning)
  let levels := plan.levels.zip (testsOf members others .none plan.levels)
  levels.foldl (fun outer (level, tests) =>
    match supplies[level.table]? with
    | some supply =>
      let keepsLeft := (members[level.table]?).any Member.keepsLeft
      step around supply keepsLeft level tests outer
    | none => outer) start

end Join

end Motif.Database
