import Motif.Database.Definition
import Motif.Database.Relation
import Motif.Database.Window

/-!
Names in expressions: which columns they are, and so what the expressions mean.
-/

set_option autoImplicit false

namespace Motif.Database

open Sql

/-- A table that names can be those of columns of. Columns that are joined to those of a table in
front of it need its name. -/
structure Bound where
  label : String
  fields : List Field
  hasNumbers : Bool
  common : List String
  /-- Rows of it may be missing. -/
  mayMiss : Bool

/-- The tables of a query, the names that it gives to its results and its windows, and whether
functions of groups and windows may be called. -/
structure Scope where
  bounds : List Bound
  labels : List (String × Term)
  windows : List (String × Window Term)
  allowsAggregates : Bool
  allowsWindows : Bool

/-- What expressions may stand in: the queries around them, how queries in them are opened, and
whether they must have the same values at any time. -/
structure Context where
  scopes : List Scope
  openQuery : List Scope → Query → Except Error Relation
  isTimeless : Bool := false

namespace Bound

def isJoin (b : Bound) : Bool := b.fields.any fun f => f.home.isSome

def isAt (path : List String) (label : String) : Bool :=
  match path with
  | [] => true
  | [table] => sameName table label
  | [database, table] => sameName database "main" && sameName table label
  | _ => false

def places (b : Bound) (n : Name) : List (Nat × Field) :=
  let fields := b.fields.zipIdx.map fun (f, place) => (place, f)
  let atHome := fields.filter fun (_, f) =>
    f.home.any fun (table, name) => isAt n.path table && sameName name n.column
  if !atHome.isEmpty then atHome
  else if n.path.isEmpty ∧ (b.isJoin ∨ b.common.any (sameName n.column)) then []
  else if isAt n.path b.label then
    (fields.find? fun (_, f) => sameName f.name n.column).toList
  else []

end Bound

namespace Context

def flaw {α : Type} (f : Flaw) : Except Error α := .error (.query f)

def columnsOf (s : Scope) (n : Name) : List (Nat × Nat × Field) :=
  s.bounds.zipIdx.flatMap fun (b, table) => (b.places n).map fun found => (table, found)

/-- The table of a scope whose rows have the numbers that a name stands for: the only one that can be
meant. -/
def numbersOf? (s : Scope) (n : Name) : Option Nat :=
  let meant := s.bounds.zipIdx.filter fun (b, _) =>
    Bound.isAt n.path b.label && !(n.path.isEmpty && b.isJoin)
  match meant with
  | [(b, table)] => if Definition.isNumberName n.column ∧ b.hasNumbers then some table else none
  | _ => none

def fieldMeaning (depth table place : Nat) (f : Field) : Meaning :=
  .ofRead ⟨depth, table, if f.isNumber then none else some place⟩ f.affinity f.collation

def column? (n : Name) : Nat → List Scope → Except Error (Option (Meaning ⊕ (Nat × Term)))
  | _, [] => .ok none
  | depth, s :: outer =>
    match columnsOf s n with
    | [(table, place, f)] =>
      .ok (some (.inl (fieldMeaning depth table place f)))
    | _ :: _ :: _ => flaw (.ambiguousColumn n.text)
    | [] =>
      match numbersOf? s n with
      | some table => .ok (some (.inl (.ofRead ⟨depth, table, none⟩ (some .integer) none)))
      | none =>
        match s.labels.find? fun l => n.path.isEmpty && sameName l.1 n.column with
        | some (_, e) => .ok (some (.inr (depth, e)))
        | none => column? n (depth + 1) outer

def truth? (scopes : List Scope) (e : Term) : Option Bool :=
  match e with
  | .name n =>
    match column? n 0 scopes with
    | .ok none => e.truth?
    | _ => none
  | _ => none

def isFilled (scopes : List Scope) : Meaning → Bool
  | ⟨operation, parts, _, _, _, _, _, _, _, _, _⟩ =>
    match operation, parts with
    | .positive, [e] | .negative, [e] => isFilled scopes e
    | .literal l, _ => l ≠ .null
    | .column r, _ =>
      (scopes[r.depth]?.bind fun s => s.bounds[r.table]?).any fun b =>
        !b.mayMiss && (r.place.all fun place => b.fields[place]?.any Field.isFilled)
    | _, _ => false

def nullTest (scopes : List Scope) (wanted : Bool) (e : Meaning) : Meaning :=
  if isFilled scopes e then .ofBool !wanted
  else .one (if wanted then .isNull else .notNull) e fun v => .ofBool (v.isNull == wanted)

def outward (reads : List Read) : List Read :=
  reads.filterMap fun r => if r.depth = 0 then none else some { r with depth := r.depth - 1 }

def firstColumn (a : Answer) (m : Moment) : Flow Cell := (a.rows m.rows).mapM fun row => row.cell 0

def single (r : Relation) : Except Error Unit :=
  if r.fields.length = 1 then .ok () else flaw (.subqueryColumns r.fields.length 1)

/-- The sides of the only test of a query that speaks of the queries around it, if it asks for two
values to be equal: the one of which nothing is in the query, and the other one. -/
def keyOf? (tests : List Meaning) : Option (Meaning × Meaning) :=
  let isOutside (e : Meaning) : Bool := e.hasQuery || e.reads.any fun r => r.depth ≠ 0
  let isInside (e : Meaning) : Bool := e.hasQuery || e.reads.any fun r => r.depth = 0
  let (outside, _) := tests.partition isOutside
  match outside with
  | [e] =>
    match e.operation, e.parts with
    | .compare .equal _, [a, b] =>
      if isOutside a ∧ isOutside b then none
      else if isOutside a then if isInside a then none else some (a, b)
      else if isInside b then none
      else some (.collated ((Meaning.jointCollation a b).getD Definition.plainCollation) b, a)
    | _, _ => none
  | _ => none

/-- What a column of a query has to be equal to for the query to have rows, if all that it speaks of
the queries around it is that. -/
def keyIn? (r : Relation) : Option (Meaning × Meaning) :=
  match r.blocks with
  | [b] =>
    if b.isGrouped ∨ b.limit?.isSome ∨ b.outputs.any fun o => !o.meaning.passes.isEmpty then none
    else
      (keyOf? (b.tests.flatMap fun t => t.meaning.conjuncts)).map fun (key, column) =>
        (key.outward, column)
  | _ => none

def hasRows (r : Relation) : Except Error Meaning := do
  let answer ← r.answer []
  let value (m : Moment) : Except Error Cell := do
    return .ofBool !(← ((answer.rows m.rows).take 1).all).isEmpty
  let plain := { Meaning.made (.exists none) [] value with reads := r.reads }
  match keyIn? r with
  | some (key, column) =>
    return { plain with operation := .exists column.affinity, parts := [key] }
  | none => return plain

def distinctBy (collation : Collation) (rows : List (List Argument)) : List (List Argument) :=
  let cell (r : List Argument) : Cell := (r.head?.map Argument.cell).getD .null
  rows.foldl (fun kept r =>
    let isIn := kept.any fun k => collation.compare (cell k) (cell r) == .eq
    if isIn then kept else kept ++ [r]) []

def aggregate (name : String) (distinct : Bool) (arguments : List Meaning)
    (filter? : Option Meaning) : Except Error Meaning := do
  if distinct ∧ arguments.length ≠ 1 then flaw .distinctArguments
  let collation ← Meaning.aggregateCollation name distinct arguments
  let parts := arguments ++ filter?.toList
  let value (m : Moment) : Except Error Cell := do
    let moments := m.group.map fun rows => Moment.ofRows (rows :: m.rows.drop 1)
    let rows ← (← moments.filterM (Meaning.counts filter?)).mapM (Meaning.argumentsOf arguments)
    let rows := if distinct then distinctBy collation rows else rows
    (Aggregate.apply name collation rows).mapError .query
  return { Meaning.made (.aggregate name distinct filter?.isSome) parts value with
    hasAggregate := true, givesTree := fun _ => Aggregate.givesTree name }

/-- What an expression means. Nothing that is nested deeper than the levels given means anything. -/
def meaning (c : Context) : Nat → Term → Except Error Meaning
  | 0, _ => flaw .tooDeep
  | n + 1, e => do
    match e with
    | .literal value =>
      if let some digits := Meaning.tooLong? value then flaw (.hexSize digits)
      return .ofLiteral value
    | .parameter => return .null
    | .name name =>
      match ← column? name 0 c.scopes with
      | some (.inl found) => return found
      | some (.inr (depth, label)) =>
        let known := c.scopes.drop depth
        let scopes := known.modifyHead fun s =>
          { s with labels := [], allowsAggregates := true, allowsWindows := true }
        let found ← meaning { c with scopes } n label
        if found.hasAggregate ∧ !known.head?.any Scope.allowsAggregates then
          flaw (.misusedAlias "aggregate" name.column)
        if !found.passes.isEmpty ∧ !known.head?.any Scope.allowsWindows then
          flaw (.misusedAlias "window function" name.column)
        return found.inward depth
      | none =>
        if name.mayBeText then return .text (Parser.bytesOf name.column)
        else
          match (e : Term).truth? with
          | some b => return .ofBool b
          | none => flaw (.noSuchColumn name.text)
    | .positive e =>
      let a ← meaning c n e
      return { Meaning.made .positive [a] a.value with
        collation := a.collation, isExplicit := a.isExplicit, givesTree := a.givesTree }
    | .negative (.literal (.integer digits)) =>
      if let some digits := Meaning.tooLong? (.integer digits) then flaw (.hexSize s!"-{digits}")
      let part := Meaning.ofLiteral (.integer digits)
      return .made .negative [part] fun _ => .ok (Meaning.ofDigits true digits)
    | .negative e => return .one .negative (← meaning c n e) opposite
    | .complement e => return .one .complement (← meaning c n e) complement
    | .not e => return .not (← meaning c n e)
    | .isNull e => return nullTest c.scopes true (← meaning c n e)
    | .notNull e => return nullTest c.scopes false (← meaning c n e)
    | .between e low high =>
      Meaning.between (← meaning c n e) (← meaning c n low) (← meaning c n high)
    | .and a b => return .and (← meaning c n a) (← meaning c n b)
    | .or a b => return .or (← meaning c n a) (← meaning c n b)
    | .arithmetic op a b => return .both (.arithmetic op) (← meaning c n a) (← meaning c n b) op.apply
    | .compare op a b =>
      let isTest := op = .same ∨ op = .distinct
      match if isTest then truth? c.scopes b else none with
      | some wanted =>
        let isSame := op == Comparison.same
        return .one (.truth wanted isSame) (← meaning c n a) fun v =>
          .ofBool ((v.truth? == some wanted) == isSame)
      | none =>
        match ← values n a, ← values n b with
        | [x], [y] => Meaning.compare op x y
        | xs, ys =>
          if xs.length ≠ ys.length then flaw .rowMisused else Meaning.compareRows op xs ys
    | .among e list => Meaning.among (← meaning c n e) (← list.mapM (meaning c n))
    | .amongRows e q => amongRelation (← values n e) (← c.openQuery c.scopes q)
    | .exists q => hasRows (← c.openQuery c.scopes q.any)
    | .scalar q =>
      let r ← c.openQuery c.scopes q.first
      single r
      let answer ← r.answer []
      let field? := r.fields.head?
      let value (m : Moment) : Except Error Cell := do
        return (← ((firstColumn answer m).take 1).all).headD .null
      return { Meaning.made .query [] value with
        reads := r.reads, affinity := field?.bind Field.affinity,
        collation := field?.bind Field.collation }
    | .choice branches other =>
      let branches ← branches.mapM fun b => do
        let condition ← meaning c n b.1
        return (condition, ← meaning c n b.2)
      let other ← meaning c n other
      let parts := (branches.flatMap fun b => [b.1, b.2]) ++ [other]
      return .made .choice parts fun m => Meaning.choose m other branches
    | .cast e type =>
      let a ← meaning c n e
      let affinity := Affinity.named type
      return { Meaning.one (.cast type) a (Cell.cast affinity) with
        affinity := some affinity, collation := a.collation }
    | .collate e collation => return .collated collation (← meaning c n e)
    | .call name distinct arguments? filter? over? =>
      let arguments := arguments?.getD []
      let aggregates := c.scopes.head?.any Scope.allowsAggregates
      let windows := c.scopes.head?.any Scope.allowsWindows
      match Expr.callFlaw? aggregates windows name arguments filter?.isSome over?.isSome with
      | some own =>
        let isName : Term → Bool
          | .name _ => true
          | _ => false
        (arguments.takeWhile isName).forM fun e => discard (meaning c n e)
        match (arguments.dropWhile isName).head? with
        | some e => if e.isShallow then discard (meaning c n e)
        | none => pure ()
        flaw own
      | none =>
        match over? with
        | some (written, place) =>
          let inner := { c with
            scopes := c.scopes.modifyHead fun s => { s with allowsWindows := false } }
          let given ← arguments.mapM (meaning inner n)
          let defined := (c.scopes.head?.map Scope.windows).getD []
          let window ← match written with
            | .name own =>
              match Window.find? defined own with
              | some w => pure w
              | none => flaw (.noSuchWindow own)
            | .own w => (Window.chain defined w).mapError .query
          let parts ← window.parts.mapM (meaning inner n)
          let order ← window.order.mapM fun o => do
            let e ← meaning inner n o.key
            return (e, (⟨← Meaning.collationOf e.collation, o.descending, o.nullsFirst⟩ : Direction))
          let filter? ← filter?.mapM (meaning inner n)
          let distance (e : Term) : Except Error Meaning :=
            if e.isConstant then meaning inner n e else .ok .null
          let frame ← (window.frame.getD Window.plainFrame).mapM distance distance
          Meaning.windowed name place given filter? parts order frame
        | none =>
          if Aggregate.isCalled name arguments.length then
            let inner := { c with scopes := c.scopes.modifyHead fun s =>
              { s with allowsAggregates := false, allowsWindows := false } }
            let filter? ← filter?.mapM (meaning inner n)
            aggregate name distinct (← arguments.mapM (meaning inner n)) filter?
          else Meaning.call c.isTimeless name (← arguments.mapM (meaning c n))
    | .row _ => flaw .rowMisused
    | .raise => flaw .raiseUse
where
  values (n : Nat) (e : Term) : Except Error (List Meaning) := do
    match e with
    | .row fields => fields.mapM (meaning c n)
    | .scalar q =>
      let r ← c.openQuery c.scopes q.first
      if r.fields.length = 1 then return [← meaning c n e]
      else
        let answer ← r.answer []
        return r.fields.zipIdx.map fun (f, place) =>
          let value (m : Moment) : Except Error Cell := do
            match ← ((answer.rows m.rows).take 1).all with
            | row :: _ => row.cell place
            | [] => return .null
          { Meaning.made .query [] value with
            reads := r.reads, affinity := f.affinity, collation := f.collation }
    | _ => return [← meaning c n e]
  amongRelation (xs : List Meaning) (r : Relation) : Except Error Meaning := do
    let fields := r.fields.filter fun f => !f.isHidden
    if fields.length ≠ xs.length then flaw (.subqueryColumns fields.length xs.length)
    let tests ← (xs.zip fields).mapM fun (x, f) => do
      let collation ← Meaning.collationOf (x.collation.or f.collation)
      return (Meaning.jointAffinity f.affinity x.affinity, collation)
    let answer ← r.answer []
    let value (m : Moment) : Except Error Cell := do
      let rows ← ((answer.rows m.rows).mapM (Row.cells xs.length)).all
      if rows.isEmpty then return .ofBool false
      let own ← xs.mapM fun x => x.value m
      let same (row : List Cell) : Option Bool :=
        (tests.zip (own.zip row)).foldl (fun found ((affinity, collation), x, y) =>
          Meaning.andTruth found (Comparison.equal.holds affinity collation x y)) (some true)
      return .ofTruth (rows.foldl (fun found row => Meaning.orTruth found (same row)) (some false))
    let operation : Operation := .amongRows (fields.map Field.affinity) r.reads
    return { Meaning.made operation xs value with reads := xs.flatMap Meaning.reads ++ r.reads }

end Context

end Motif.Database
