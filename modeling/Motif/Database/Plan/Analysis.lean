import Motif.Database.Plan.Beginning

/-!
What the conditions of a join come to as clauses: what each of them ties, and which others follow
from it.
-/

set_option autoImplicit false

namespace Motif.Database

open Sql

def turned : Comparison → Comparison
  | .less => .greater
  | .atMost => .atLeast
  | .greater => .less
  | .atLeast => .atMost
  | op => op

namespace Meaning

def turn (e : Meaning) : Meaning :=
  match e.operation, e.parts with
  | .compare op isTurned, [a, b] =>
    { e with operation := .compare (Database.turned op) !isTurned, parts := [b, a] }
  | _, _ => e

/-- The likelihood that is told of an expression, as a logarithm. -/
def odds? (e : Meaning) : Option Logarithm :=
  match e.operation, e.parts with
  | .call name, _ :: more =>
    match Token.lower name, more with
    | "likely", _ => some (logarithm 125829120 - whole)
    | "unlikely", _ => some (logarithm 8388608 - whole)
    | "likelihood", [p] =>
      match p.operation with
      | .literal (.real digits) =>
        let x := (Number.real (Parser.bytesOf digits)).2
        some (logarithm (x * 134217728.0).toUInt64.toNat - whole)
      | _ => none
    | _, _ => none
  | _, _ => none
where
  whole : Logarithm := 270

def compare? (op : Comparison) (a b : Meaning) : Option Meaning := (compare op a b).toOption

end Meaning

/-- What there is to know of the tables of a join to tell what its conditions tie: the expressions
that tracks are ordered by, whether a module reads them, and which of them have been read before. -/
structure Grounds where
  expressions : Nat → List Meaning
  isForeign : Nat → Bool
  before : Tables

namespace Grounds

def rest (g : Grounds) (tables : Tables) : Tables := tables - (tables &&& g.before)

def tables (g : Grounds) (e : Meaning) : Tables := g.rest e.tables

def tablesAt (g : Grounds) (place? : Option Place) : Tables :=
  g.rest ((place?.map Place.tables).getD .none)

end Grounds

namespace Clause

def plain (path : List Nat) (e : Meaning) (home? : Option Nat) : Clause :=
  ⟨path, e.bare, home?, none, none, false, .none, .none, e.odds?, false, false, false, false, false,
    none, 0, .single, []⟩

def made (path : List Nat) (e : Meaning) (home? : Option Nat) : Clause :=
  { plain path e home? with isMade := true }

def ofMeanings (path : List Nat) (home? : Option Nat) (es : List Meaning) : Array Clause :=
  (es.zipIdx.map fun (e, i) => plain (path ++ [i]) e home?).toArray

def add (cs : Array Clause) (path : List Nat) (c : Clause) : Array Clause :=
  cs.push { c with path := path ++ [cs.size] }

def child (parent : Nat) (odds? : Option Logarithm) (c : Clause) : Clause :=
  { c with parent? := some parent, odds? }

end Clause

namespace Analysis

def place? (g : Grounds) (isRange : Bool) (tables : Tables) (e : Meaning) : Option Place :=
  let e := if isRange then e.lead else e
  match e.place? with
  | some r => some (.column r)
  | none =>
    tables.single?.bind fun table =>
      if (g.expressions table).any fun x => e.difference x.uncollated == .none then
        some (.expression table)
      else none

/-- The sides of a comparison, and how it ties the first one. Among some values there is no other
side, but what is read for them. -/
def sides? (g : Grounds) (c : Clause) : Option (Bond × Meaning × Option Meaning × Tables) :=
  match c.meaning.operation, c.meaning.parts with
  | .compare op _, [a, b] => (Bond.ofComparison op).map fun bond => (bond, a, some b, g.tables b)
  | .isNull, [a] => some (.isNull, a, none, .none)
  | .among, a :: others =>
    some (.among, a, none, others.foldl (fun found o => found ||| g.tables o) .none)
  | .amongRows _ reads, parts =>
    let right := g.rest (Read.tables reads)
    match parts with
    | [a] => some (.among, a, none, right)
    | _ => some (.among, .row parts, none, right)
  | _, _ => none

def isEquivalence (c : Clause) (a b : Meaning) : Bool :=
  let fits :=
    match a.affinity, b.affinity with
    | some x, some y => x == y || (x.isNumeric && y.isNumeric)
    | none, none => true
    | _, _ => false
  let sameWay := sameName (a.collation.getD "binary") (b.collation.getD "binary")
  c.home?.isNone && fits && (sameName c.collation "binary" || sameWay)

/-- Finds out what a comparison ties. Where it ties both sides another clause has them the other way
round. -/
def compare (g : Grounds) (path : List Nat) (cs : Array Clause) (i : Nat) (c : Clause)
    (bond : Bond) (left : Meaning) (right? : Option Meaning) (beyond : Tables) : Array Clause :=
  let isRange := bond.isLow || bond.isHigh
  let isApart := !(c.right.meets (g.tables left))
  let tied := if c.field = 0 then left else (left.parts[c.field - 1]?).getD left
  let place? := place? g isRange (g.tables left) tied.uncollated
  let c := { c with place?, bond? := if place?.isSome ∧ isApart then some bond else none }
  let turnedPlace? := right?.bind fun right => Analysis.place? g isRange c.right right.uncollated
  match right?, turnedPlace? with
  | some right, some other =>
    let turned := c.meaning.turn
    let turnedBond? :=
      match turned.operation with
      | .compare op _ => if isApart then Bond.ofComparison op else none
      | _ => none
    let turn (c : Clause) : Clause :=
      { c with
        meaning := turned, place? := some other, bond? := turnedBond?,
        right := g.tables left ||| beyond }
    if place?.isSome then
      let isEquivalence := bond.isEqual && isEquivalence c left right
      let copy := { turn c with isMade := true, isEquivalence }
      Clause.add (cs.setIfInBounds i { c with isCopied := true, isEquivalence }) path
        (copy.child i c.odds?)
    else cs.setIfInBounds i (turn c)
  | _, _ => cs.setIfInBounds i c

def fields (c : Clause) : List Meaning :=
  match c.meaning.operation, c.meaning.parts with
  | .compare op _, [a, b] =>
    match if op = .equal ∨ op = .same then some (a.fields?, b.fields?) else none with
    | some (some xs, some ys) => (xs.zip ys).filterMap fun (x, y) => Meaning.compare? op x y
    | _ => []
  | _, _ => []

def tiedBy (g : Grounds) (parts : Array Clause) (c : Clause) : Tables :=
  let other? := if c.isMade then c.parent?.bind fun i => (parts[i]?).bind Clause.place? else none
  g.tablesAt c.place? ||| g.tablesAt other?

def mayTie (g : Grounds) (c : Clause) : Bool := (sides? g c).isSome

def allTables : Tables := (1 <<< 64) - 1

/-- The tables of which every part ties something, and those of which every part tells a value. -/
def tied (g : Grounds) (parts : Array Clause) : Tables × Tables :=
  parts.foldl (fun (found : Tables × Tables) c =>
    match c.joint with
    | .both =>
      let own := c.parts.foldl (fun found p =>
        if mayTie g p then found ||| g.tablesAt p.place? else found) .none
      (found.1 &&& own, .none)
    | _ =>
      if c.isCopied then found
      else
        let own := tiedBy g parts c
        (found.1 &&& own, if c.bond? = some .equal then found.2 &&& own else .none))
    (allTables, allTables)

/-- What the parts of a clause have on their other sides, if each tells a value of the same thing as
one of them. -/
def values? (parts : List Clause) (candidate : Clause) : Option (Meaning × List Meaning) := do
  let place ← candidate.place?
  let left ← candidate.left?
  let own := parts.filter fun c => c.place?.bind Place.table? == place.table?
  let isSame (c : Clause) : Bool :=
    c.place? == some place &&
      match place with
      | .column _ => true
      | .expression _ => c.left?.any left.same
  let fits (c : Clause) : Bool :=
    match c.right?.bind Meaning.affinity with
    | none => true
    | affinity => c.left?.bind Meaning.affinity == affinity
  if own.all fun c => isSame c && fits c then some (left, own.filterMap Clause.right?) else none

/-- The clause that a clause which one part is enough for is the same as, if each part tells a value
of the same thing: that it is among some values. -/
def among? (g : Grounds) (equals : Tables) (parts : List Clause) : Option Meaning := do
  let candidates := parts.filter fun c => (g.tablesAt c.place?).meets equals
  let first ← candidates.head?
  let second? := candidates.find? fun c =>
    c.place?.bind Place.table? != first.place?.bind Place.table?
  let (a, others) ← (values? parts first).or (second?.bind (values? parts))
  (Meaning.among a others).toOption

/-- What two conditions have in common of which one has to hold, if they compare the same things in
the same direction. -/
def combine? (a b : Clause) : Option Meaning := do
  let x ← a.bond?
  let y ← b.bond?
  let isEnd (bond : Bond) : Bool := bond = .equal || bond.isLow || bond.isHigh
  let isLow := (x = .equal || x.isLow) && (y = .equal || y.isLow)
  let isHigh := (x = .equal || x.isHigh) && (y = .equal || y.isHigh)
  let left ← a.left?
  let right ← a.right?
  let isSame := (b.left?.any left.same) && (b.right?.any right.same)
  if !(isEnd x && isEnd y && (isLow || isHigh) && isSame) then none
  else
    match a.meaning.operation with
    | .compare op isTurned =>
      let joint : Comparison := if x = y then op else if isHigh then .atMost else .atLeast
      (Meaning.compare? joint left right).map fun e =>
        { e with operation := .compare joint isTurned }
    | _ => none

def halves (c : Clause) : List Clause :=
  match c.joint with
  | .both => c.parts
  | _ => [c]

def ends (b : Beginning) (text : Meaning) : List Meaning :=
  let own := Meaning.collated b.collation text
  [(Comparison.atLeast, b.low), (.less, b.high)].filterMap fun (op, bytes) =>
    Meaning.compare? op own (.text bytes)

def filled? (c : Clause) : Option (Meaning × Read) :=
  match c.meaning.operation, c.meaning.parts with
  | .notNull, [e] =>
    match e.column with
    | some r => if r.place.isSome ∧ c.home?.isNone then some (e, r) else none
    | none => none
  | _, _ => none

/-- Finds out what a clause ties, and puts those that follow from it behind all others. Clauses of
which all have to hold lead to more. -/
def run (g : Grounds) : Nat → List Nat → Bool → Array Clause → Nat → Array Clause
  | 0, _, _, cs, _ => cs
  | n + 1, path, isAll, cs, i =>
    match cs[i]? with
    | none => cs
    | some c =>
      let beyond := (c.home?.map Tables.before).getD .none
      let tables := g.tables c.meaning ||| (c.home?.map Tables.only).getD .none
      let c := { c with tables }
      let follow (cs : Array Clause) (e : Meaning) (change : Clause → Clause) : Array Clause :=
        run g n path isAll (Clause.add cs path (change (.made [] e c.home?))) cs.size
      let own := Clause.child i c.odds?
      match sides? g c with
      | some (bond, left, right?, right) =>
        let cs := compare g path cs i { c with right } bond left right? beyond
        match fields c with
        | [] =>
          let isWide := c.field = 0 && 1 < (left.fields?.getD []).length
          if isAll ∧ bond = .among ∧ isWide then
            (List.range c.meaning.parts.length).foldl (fun cs k =>
              let part : Clause :=
                { Clause.made [] c.meaning c.home? with field := k + 1, isMade := true }
              run g n path isAll (Clause.add cs path (own part)) cs.size) cs
          else cs
        | parts =>
          if isAll then
            let cs := parts.foldl (fun cs e =>
              run g n path isAll (Clause.add cs path (.plain [] e c.home?)) cs.size) cs
            cs.modify i fun c => { c with isReplaced := true, isMade := true, bond? := none }
          else cs
      | none =>
        let cs := cs.setIfInBounds i c
        match c.meaning.operation, c.meaning.parts with
        | .between, [e, low, high] =>
          if !isAll then cs
          else
            [(Comparison.atLeast, low), (.atMost, high)].foldl (fun cs (op, bound) =>
              match Meaning.compare? op e bound with
              | some e => follow cs e own
              | none => cs) cs
        | .or, _ =>
          let parts := Clause.ofMeanings (path ++ [i]) c.home? (Meaning.split .or c.meaning)
          let parts := (List.range parts.size).reverse.foldl (run g n (path ++ [i]) false) parts
          let parts := parts.map fun p =>
            if p.bond?.isSome then p
            else
              let inner := Clause.ofMeanings p.path c.home? p.meaning.conjuncts
              let inner := (List.range inner.size).reverse.foldl (run g n p.path true) inner
              { p with joint := .both, place? := none, parts := inner.toList }
          let (tied, equals) := tied g parts
          let cs := cs.setIfInBounds i { c with joint := .either tied, parts := parts.toList }
          let pairs :=
            match parts.toList with
            | [a, b] => (halves a).flatMap fun x => (halves b).filterMap (combine? x)
            | _ => []
          let cs := if tied = 0 then cs else pairs.foldl (fun cs e => follow cs e id) cs
          match if equals = 0 then none else among? g equals parts.toList with
          | some e => follow cs e own
          | none => cs
        | .exists _, [_] =>
          if !isAll then cs
          else
            let found : Clause := { Clause.made [] c.meaning c.home? with tables }
            let key := (c.meaning.parts.head?).getD .null
            let place? := place? g false (g.tables key) key.uncollated
            let found := own { found with place?, bond? := place?.map fun _ => .among }
            (Clause.add cs path found).modify i fun c => { c with isCopied := true }
        | .notNull, _ =>
          match filled? c with
          | none => cs
          | some (e, r) =>
            match Meaning.compare? .greater e .null with
            | none => cs
            | some e =>
              let found : Clause :=
                { Clause.made [] e c.home? with
                  place? := some (.column r), bond? := some .greater, tables, isFilled := true }
              (Clause.add cs path (own found)).modify i fun c => { c with isCopied := true }
        | .call _, _ =>
          let onlyTexts (e : Meaning) : Bool :=
            e.column.any fun r => e.affinity = some .text && !(r.depth = 0 && g.isForeign r.table)
          match if isAll then Beginning.ofMeaning? onlyTexts c.meaning else none with
          | none => cs
          | some (text, b) =>
            let change (c : Clause) : Clause :=
              if b.isExact then own { c with isBeginning := true } else { c with isBeginning := true }
            (ends b text).foldl (fun cs e => follow cs e change) cs
        | _, _ => cs

end Analysis

/-- The clauses of the tests of a join: first the conditions as they are, then what follows from
them. -/
def Clause.ofTests (g : Grounds) (tests : List Test) : List Clause :=
  let plain := (tests.flatMap fun t => t.meaning.conjuncts.map fun e => (e, t.home?)).zipIdx.map
    fun ((e, home?), i) => Clause.plain [i] e home?
  let levels := List.range plain.length
  (levels.reverse.foldl (Analysis.run g Expr.mostLevels [] true) plain.toArray).toList

end Motif.Database
