import Motif.Database.Block

/-!
Queries that are worked out together with those in them: the tables of a query take the place of the
query, and what its columns mean takes the place of the columns.
-/

set_option autoImplicit false

namespace Motif.Database

open Sql

/-- How a query stands to others: it may be one of several whose rows are put together, or be worked
out again and again for its own rows. -/
inductive Rank where
  | alone
  | part
  | again
deriving DecidableEq

/-- Queries whose rows are put together, with the order of their columns, and how these are compared
by name. -/
structure Union (ρ : Type) where
  first : Block ρ
  others : List (Compound × Block ρ)
  order : List (Nat × Direction × String)
  limit? : Option Meaning
  offset? : Option Meaning

namespace Leaf

def isForeign (leaf : Leaf Relation) : Bool :=
  leaf.relation.work?.isSome || leaf.relation.given?.isSome

def staysBehind (leaf : Leaf Relation) : Bool := leaf.keepsLeft || leaf.isFixed

end Leaf

namespace Block

def hasPasses (b : Block Relation) : Bool :=
  (b.outputs.map Output.meaning ++ b.order.map Prod.fst).any fun e => !e.passes.isEmpty

/-- Where a condition asks for a row of a table, none may be missing. -/
def settleLeft (b : Block Relation) (i : Nat) : Block Relation :=
  let isForeign (table : Nat) : Bool := b.leaves[table]?.any Leaf.isForeign
  let isNeeded := b.tests.zipIdx.any fun (t, place) =>
    t.home?.isNone && t.meaning.asksRow isForeign i (place = 0)
  if b.leaves[i]?.any Leaf.keepsLeft ∧ isNeeded then
    { b with
      leaves := b.leaves.modify i fun leaf => { leaf with keepsLeft := false }
      tests := b.tests.map fun t => if t.home? = some i then { t with home? := none } else t }
  else b

def placeOf? (b : Block Relation) (e : Meaning) : Option Nat :=
  b.outputs.findIdx? fun o => o.meaning.same e

/-- Whether a query may be worked out together with those that a table of it stands for. -/
def mayAbsorb (b : Block Relation) (rank : Rank) (i : Nat) (leaf : Leaf Relation)
    (subs : List (Block Relation)) : Bool :=
  match subs.getLast? with
  | none => false
  | some last =>
    let isAlone := b.leaves.length = 1
    let isFirst := i = 0 && (isAlone || b.leaves[1]?.any Leaf.staysBehind)
    let isCut := last.limit?.isSome
    let isOrdered := !last.order.isEmpty
    let mayCut := !isCut || (b.limit?.isNone && rank ≠ .part && isAlone && !b.isGrouped &&
      b.tests.isEmpty && !b.isDistinct)
    let mayOrder := !isOrdered || (b.order.isEmpty && !b.isGrouped && !(isFirst && b.isComplex))
    let mayMiss := !leaf.keepsLeft || (subs.length = 1 && last.leaves.length = 1 &&
      !b.isGrouped && !b.isDistinct && !(last.leaves.any Leaf.isForeign))
    let mayJoin := subs.length = 1 || (!b.isGrouped && !b.isDistinct && rank ≠ .again &&
      !b.isMoved && b.order.all fun o => (b.placeOf? o.1).isSome)
    let isPlain (sub : Block Relation) : Bool :=
      !sub.leaves.isEmpty && !sub.isDistinct && !sub.isGrouped && !sub.hasPasses
    !leaf.relation.isKept && !b.hasPasses && subs.all isPlain && last.offset?.isNone &&
      mayCut && mayOrder && mayMiss && mayJoin

/-- How expressions of a query are carried over where the tables of a query take its place. -/
def inlining (i : Nat) (leaf : Leaf Relation) (sub : Block Relation) : Exchange :=
  let count := sub.leaves.length
  let own (rows : List Row) : List Row := (rows.drop i).take count
  let isMissing (rows : List Row) : Bool :=
    leaf.keepsLeft && ((own rows).head?.map Row.isMissing).getD true
  let row (rows : List Row) (around : Surroundings) : Row :=
    if isMissing rows then .missing else rowAt sub.outputs (.ofRows (own rows :: around))
  let present (e : Meaning) : Meaning :=
    if !leaf.keepsLeft ∨ e.column.isSome then e
    else
      { Meaning.made (.present i) [e] fun m =>
          if isMissing (m.rows.headD []) then .ok .null else e.value m with
        affinity := e.affinity, collation := e.collation }
  ⟨Moment.mapRows fun rows around => rows.take i ++ row rows around :: rows.drop (i + count),
    fun r => if r.depth = 0 ∧ i < r.table then { r with table := r.table + count - 1 } else r,
    fun r =>
      if r.depth ≠ 0 ∨ r.table ≠ i then none
      else
        match r.place with
        | none => some .null
        | some place =>
          let found := sub.outputs[place]?.map fun o => present (o.meaning.renumber (· + i) own)
          some (found.getD .null)⟩

/-- A query together with another in the place of one of its tables. -/
def absorb (b : Block Relation) (i : Nat) (leaf : Leaf Relation) (sub : Block Relation) :
    Block Relation :=
  let x := inlining i leaf sub
  let count := sub.leaves.length
  let moved (e : Meaning) : Meaning :=
    e.renumber (· + i) fun rows => (rows.drop i).take count
  let place (table : Nat) : Nat := if i < table then table + count - 1 else table
  let first := (sub.leaves.take 1).map fun own =>
    { own with keepsLeft := leaf.keepsLeft, isFixed := leaf.isFixed }
  let inner := (first ++ sub.leaves.drop 1).map fun own =>
    { own with arguments := own.arguments.map moved }
  let outer := b.leaves.map fun own =>
    { own with arguments := own.arguments.map (Meaning.exchange x) }
  let ownTests := sub.tests.map fun t => ({
    meaning := moved t.meaning
    home? := if leaf.keepsLeft then some i else t.home?.map (· + i) } : Test)
  let tests := b.tests.map fun t => ({
    meaning := t.meaning.exchange x, home? := t.home?.map place } : Test)
  let pairs (keys : List (Meaning × Direction)) : List (Meaning × Direction) :=
    keys.map fun (e, d) => (e.exchange x, d)
  { b with
    leaves := outer.take i ++ inner ++ outer.drop (i + 1)
    tests := ownTests ++ tests
    outputs := b.outputs.map fun o => { o with meaning := o.meaning.exchange x }
    groups := pairs b.groups
    having := b.having.map (Meaning.exchange x)
    order :=
      if sub.order.isEmpty then pairs b.order else sub.order.map fun (e, d) => (moved e, d)
    isMoved := b.isMoved || !sub.order.isEmpty
    limit? := b.limit?.or sub.limit? }

/-- What a query comes to together with those in it: a query, with what its moments are like for
the one that it was, or several. -/
inductive Reduced where
  | one (b : Block Relation) (back : Moment → Moment)
  | many (u : Union Relation)

def spread (b : Block Relation) (i : Nat) (leaf : Leaf Relation) (first : Block Relation)
    (rest : List (Block Relation)) : Union Relation :=
  let plain := { b with order := [], limit? := none, offset? := none }
  let take (sub : Block Relation) : Block Relation :=
    { absorb plain i leaf { sub with limit? := none } with limit? := none }
  let order := b.order.filterMap fun (e, d) =>
    (b.placeOf? e).map fun place => (place, d, e.collation.getD "binary")
  let last := rest.getLast?.getD first
  ⟨take first, rest.map fun sub => (.unionAll, take sub), order, b.limit?.or last.limit?,
    b.offset?⟩

/-- Goes through the tables of a query, and works it out together with the queries among them; goes
on for as many steps as are given. -/
def reduce (rank : Rank) (maySpread : Bool) :
    Nat → Block Relation → (Moment → Moment) → Nat → Reduced
  | 0, b, back, _ => .one b back
  | n + 1, b, back, i =>
    let b := b.settleLeft i
    match b.leaves[i]? with
    | none => .one b back
    | some leaf =>
      match leaf.relation.blocks with
      | [] => reduce rank maySpread n b back (i + 1)
      | sub :: rest =>
        if !b.mayAbsorb rank i leaf (sub :: rest) then reduce rank maySpread n b back (i + 1)
        else if rest.isEmpty then
          reduce rank maySpread n (b.absorb i leaf sub)
            (fun m => back ((inlining i leaf sub).moment m)) 0
        else if maySpread then .many (b.spread i leaf sub rest)
        else reduce rank maySpread n b back (i + 1)

end Block

end Motif.Database
