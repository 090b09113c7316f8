import Motif.Database.Direction
import Motif.Database.Row
import Motif.Sql.Constant
import Motif.Sql.Function
import Motif.Sql.Parser.Term

/-!
What an expression means among tables: its value for each row, with what is known of it before any
row is read.
-/

set_option autoImplicit false

namespace Motif.Database

open Sql

/-- The rows that an expression is worked out for. Aggregates are worked out for a group of them, and
functions of windows have been worked out before; they are told by their places. -/
structure Moment where
  rows : Surroundings
  group : List (List Row)
  windows : List (Nat × Cell)

namespace Moment

def ofRows (rows : Surroundings) : Moment := ⟨rows, [], []⟩

def mapRows (f : List Row → Surroundings → List Row) (m : Moment) : Moment :=
  match m.rows with
  | [] => m
  | own :: around =>
    { m with rows := f own around :: around, group := m.group.map fun own => f own around }

end Moment

/-- What an expression is made by, apart from its parts. -/
inductive Operation where
  | literal (value : Literal)
  | column (r : Read)
  | known (r : Read)
  | present (table : Nat)
  | positive
  | negative
  | complement
  | not
  | isNull
  | notNull
  | and
  | or
  | between
  | arithmetic (op : Arithmetic)
  /-- The sides may have been turned, which does not change how they are compared. -/
  | compare (op : Comparison) (isTurned : Bool)
  | truth (wanted isSame : Bool)
  | among
  | amongRows (affinities : List (Option Affinity)) (reads : List Read)
  /-- Whether a query has rows; there may be a part that one of its columns is to be equal to, with
  the affinity of that. -/
  | exists (affinity : Option Affinity)
  | choice
  | cast (type : String)
  | collate (name : String)
  | call (name : String)
  | aggregate (name : String) (distinct hasFilter : Bool)
  | window (place : Nat)
  | row
  | query
deriving DecidableEq

namespace Operation

def asks : Operation → Bool
  | .amongRows .. | .exists _ | .query => true
  | _ => false

end Operation

/-- Going through all moments, in the order of a window, to work out a function of it. The keys tell
which windows have the same order; one that is no column is like no other. -/
structure Pass (μ : Type) where
  keys : List (Option Read × Bool)
  order : List (μ × Direction)
  run : List Moment → Except Error (List Moment)

namespace Pass

variable {μ : Type}

def isSame (a b : Pass μ) : Bool :=
  a.keys == b.keys && a.keys.all fun k => k.1.isSome

/-- Passes in the order in which they are made: what is asked for first comes last, with all that has
the same order. -/
def arrange (passes : List (Pass μ)) : List (Pass μ) :=
  let add (found : List (List (Pass μ))) (p : Pass μ) : List (List (Pass μ)) :=
    match found.findIdx? fun same => same.any p.isSame with
    | some i => found.modify i (p :: ·)
    | none => found ++ [[p]]
  (passes.foldl add []).reverse.flatten

end Pass

structure Meaning where
  operation : Operation
  parts : List Meaning
  value : Moment → Except Error Cell
  /-- Whether the value is true, or whether it is false; no more is worked out than is needed. -/
  isTruly : Bool → Moment → Except Error Bool
  affinity : Option Affinity
  collation : Option String
  /-- The way of comparing is asked for, and not just that of a column. -/
  isExplicit : Bool
  reads : List Read
  hasAggregate : Bool
  passes : List (Pass Meaning)
  /-- Whether a text that it gives stands for a tree of values. -/
  givesTree : Cell → Bool

namespace Meaning

def hasQueryTo : Nat → Meaning → Bool
  | 0, _ => true
  | n + 1, e => e.operation.asks || e.parts.any (hasQueryTo n)

def hasQuery (e : Meaning) : Bool := hasQueryTo Expr.mostLevels e

def made (operation : Operation) (parts : List Meaning) (value : Moment → Except Error Cell) :
    Meaning :=
  let explicit := parts.find? Meaning.isExplicit
  ⟨operation, parts, value, fun wanted m => do return (← value m).truth? = some wanted, none,
    explicit.bind Meaning.collation, explicit.isSome, parts.flatMap Meaning.reads,
    parts.any Meaning.hasAggregate, parts.flatMap Meaning.passes, fun _ => false⟩

def literal (l : Literal) (c : Cell) : Meaning := made (.literal l) [] fun _ => .ok c

def text (bytes : List Nat) : Meaning := literal (.string bytes) (.text bytes)

def null : Meaning := literal .null .null

def ofBool (b : Bool) : Meaning := literal (.integer (if b then "1" else "0")) (.ofBool b)

def ofRead (r : Read) (affinity : Option Affinity) (collation : Option String) : Meaning :=
  { made (.column r) [] fun m => r.cell m.rows with affinity, collation, reads := [r] }

def column (e : Meaning) : Option Read :=
  match e.operation with
  | .column r => some r
  | _ => none

def collated (name : String) (e : Meaning) : Meaning :=
  { made (.collate name) [e] e.value with
    isTruly := e.isTruly, affinity := e.affinity, collation := some name, isExplicit := true,
    givesTree := e.givesTree }

def isBy (operation : Operation) : Bool :=
  match operation with
  | .collate _ => true
  | .call name => ["likely", "unlikely", "likelihood"].contains (Token.lower name)
  | _ => false

def bare : Meaning → Meaning
  | e@⟨operation, part :: _, _, _, _, _, _, _, _, _, _⟩ => if isBy operation then bare part else e
  | e => e

def collationOf (name? : Option String) : Except Error Collation :=
  match name? with
  | none => .ok .binary
  | some name =>
    match Collation.ofName? name with
    | some c => .ok c
    | none => .error (.query (.noSuchCollation name))

/-- The name of the way in which two expressions are compared: the first that is asked for, or that
of the first that has one. -/
def jointCollation (a b : Meaning) : Option String :=
  if a.isExplicit then a.collation
  else if b.isExplicit then b.collation
  else a.collation.or b.collation

def jointAffinity (a b : Option Affinity) : Affinity :=
  match a, b with
  | some x, some y => if x.isNumeric || y.isNumeric then .numeric else .blob
  | some x, none => x
  | none, some y => y
  | none, none => .blob

def one (operation : Operation) (e : Meaning) (f : Cell → Cell) : Meaning :=
  made operation [e] fun m => do return f (← e.value m)

def both (operation : Operation) (a b : Meaning) (f : Cell → Cell → Cell) : Meaning :=
  made operation [a, b] fun m => do return f (← a.value m) (← b.value m)

def compare (op : Comparison) (a b : Meaning) : Except Error Meaning := do
  let collation ← collationOf (jointCollation a b)
  let affinity := jointAffinity a.affinity b.affinity
  return both (.compare op false) a b fun x y => .ofTruth (op.holds affinity collation x y)

def andTruth (a b : Option Bool) : Option Bool :=
  if a = some false ∨ b = some false then some false
  else if a = none ∨ b = none then none
  else some true

def notTruth (a : Option Bool) : Option Bool := a.map (!·)

def orTruth (a b : Option Bool) : Option Bool := notTruth (andTruth (notTruth a) (notTruth b))

def and (a b : Meaning) : Meaning :=
  { both .and a b fun x y => .ofTruth (andTruth x.truth? y.truth?) with
    isTruly := fun wanted m => do
      if (← a.isTruly wanted m) ≠ wanted then return !wanted else b.isTruly wanted m }

def or (a b : Meaning) : Meaning :=
  { both .or a b fun x y => .ofTruth (orTruth x.truth? y.truth?) with
    isTruly := fun wanted m => do
      if (← a.isTruly wanted m) = wanted then return wanted else b.isTruly wanted m }

def not (a : Meaning) : Meaning :=
  { one .not a fun x => .ofTruth (notTruth x.truth?) with
    isTruly := fun wanted m => a.isTruly (!wanted) m }

def split (joining : Operation) : Meaning → List Meaning
  | e@⟨operation, parts, _, _, _, _, _, _, _, _, _⟩ =>
    match parts with
    | [] => [e]
    | a :: rest =>
      if operation = joining then
        match rest with
        | [b] => split joining a ++ split joining b
        | _ => [e]
      else if isBy operation then
        let found := split joining a
        if 1 < found.length then found else [e]
      else [e]

def conjuncts (e : Meaning) : List Meaning := split .and e

def allTruth (m : Moment) : List Meaning → Except Error (Option Bool)
  | [] => .ok (some true)
  | e :: rest => do
    let first := (← e.value m).truth?
    return andTruth first (← allTruth m rest)

def allTrue (m : Moment) : List Meaning → Except Error Bool
  | [] => .ok true
  | e :: rest => do if ← e.isTruly true m then allTrue m rest else return false

/-- Whether the first pair that is not equal is in order; the last pair may be equal if that is what
the last condition asks for. -/
def orderTruth (m : Moment) (last : Meaning) : List (Meaning × Meaning) → Except Error (Option Bool)
  | [] => do return (← last.value m).truth?
  | (isEqual, isOrdered) :: rest => do
    match (← isOrdered.value m).truth? with
    | some false =>
      if (← isEqual.value m).truth? = some true then orderTruth m last rest else return some false
    | decided => return decided

def row (fields : List Meaning) : Meaning := made .row fields fun _ => .ok .null

/-- Compares as many values to as many others. -/
def compareRows (op : Comparison) (xs ys : List Meaning) : Except Error Meaning := do
  let pairs := xs.zip ys
  let made (value : Moment → Except Error Cell) : Meaning :=
    made (.compare op false) [row xs, row ys] value
  let each (op : Comparison) (pairs : List (Meaning × Meaning)) : Except Error (List Meaning) :=
    pairs.mapM fun (x, y) => compare op x y
  let all (op : Comparison) (turn : Option Bool → Option Bool) : Except Error Meaning := do
    let parts ← each op pairs
    return made fun m => do return .ofTruth (turn (← allTruth m parts))
  let ordered (strict : Comparison) : Except Error Meaning := do
    let front := pairs.dropLast
    let isEqual ← each .equal front
    let isOrdered ← each strict front
    let last ← each op (pairs.drop front.length)
    return made fun m => do
      return .ofTruth (← orderTruth m (last.headD null) (isEqual.zip isOrdered))
  match op with
  | .equal => all .equal id
  | .same => all .same id
  | .different => all .equal notTruth
  | .distinct => all .same notTruth
  | .less | .atMost => ordered .less
  | .greater | .atLeast => ordered .greater

def between (e low high : Meaning) : Except Error Meaning := do
  let atLeast ← compare .atLeast e low
  let atMost ← compare .atMost e high
  let both := and atLeast atMost
  return { made .between [e, low, high] both.value with isTruly := both.isTruly }

def isAmong (affinity : Affinity) (collation : Collation) (c : Cell) (others : List Cell) :
    Option Bool :=
  if others.isEmpty then some false
  else
    let found := others.map (Comparison.equal.holds affinity collation c)
    if found.contains (some true) then some true
    else if found.contains none then none
    else some false

def amongAffinity (a : Option Affinity) : Affinity :=
  match a with
  | some .real => .numeric
  | some affinity => affinity
  | none => .blob

def among (a : Meaning) (others : List Meaning) : Except Error Meaning := do
  let collation ← collationOf a.collation
  return made .among (a :: others) fun m => do
    let cells ← others.mapM fun o => o.value m
    return .ofTruth (isAmong (amongAffinity a.affinity) collation (← a.value m) cells)

/-- The number that digits are. One that does not fit is a real number. -/
def ofDigits (negative : Bool) (digits : String) : Cell :=
  match digits.toList with
  | '0' :: x :: rest =>
    if x.toLower = 'x' then
      let n := rest.foldl (fun n c => 16 * n + Parser.hexValue c) 0
      let value := (BitVec.ofNat 64 n).toInt
      if negative then opposite (.integer value) else .integer value
    else decimal
  | _ => decimal
where
  decimal : Cell :=
    let bytes := Parser.bytesOf (if negative then "-" ++ digits else digits)
    match Number.integer bytes with
    | (.all, n) => .integer n
    | _ => .ofFloat (Number.real bytes).2

def tooLong? : Literal → Option String
  | .integer digits =>
    match digits.toList with
    | '0' :: x :: rest =>
      if x.toLower = 'x' ∧ 16 < (rest.dropWhile (· = '0')).length then some digits else none
    | _ => none
  | _ => none

def ofLiteral (l : Literal) : Meaning :=
  literal l <|
    match l with
    | .null => .null
    | .integer digits | .real digits => ofDigits false digits
    | .string bytes => .text bytes
    | .blob bytes => .blob bytes

def choose (m : Moment) (other : Meaning) : List (Meaning × Meaning) → Except Error Cell
  | [] => other.value m
  | (condition, result) :: rest => do
    if ← condition.isTruly true m then result.value m else choose m other rest

def firstKnown (m : Moment) : List Meaning → Except Error Cell
  | [] => .ok .null
  | e :: rest => do
    let c ← e.value m
    if c.isNull then firstKnown m rest else return c

def lazyCall (name : String) (arguments : List Meaning) : Meaning :=
  made (.call name) arguments fun m =>
    match Token.lower name, arguments with
    | "iif", [condition, a, b] => choose m b [(condition, a)]
    | _, _ => firstKnown m arguments

/-- A call of a function. What it compares it compares as its first argument that says how. -/
def call (isTimeless : Bool) (name : String) (arguments : List Meaning) : Except Error Meaning := do
  match Function.named? name with
  | none => return lazyCall name arguments
  | some f =>
    if f.isUnsafe then throw (.query (.unsafeUse (Token.lower name)))
    let collation ←
      collationOf (if f.compares then arguments.findSome? Meaning.collation else none)
    let value (m : Moment) : Except Error Cell := do
      let given ← arguments.mapM fun e => do
        let c ← e.value m
        return (⟨c, e.givesTree c⟩ : Argument)
      (f.apply ⟨collation, isTimeless⟩ given).mapError .query
    return { made (.call name) arguments value with givesTree := f.givesTree }

end Meaning

end Motif.Database
