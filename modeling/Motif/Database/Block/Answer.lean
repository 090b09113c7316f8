import Motif.Database.Compound
import Motif.Database.Definition

/-!
What queries come to: they are worked out together with those in them as far as that goes, planned,
and their rows put in groups, in windows, and in order.
-/

set_option autoImplicit false

namespace Motif.Database

open Sql

namespace Block

def naming (b : Block Relation) : Exchange :=
  ⟨fun m => { m with rows := [rowAt b.outputs m] :: m.rows.drop 1, group := [], windows := [] }, id,
    fun r =>
      if r.depth ≠ 0 then none
      else
        match r.place.bind fun place => b.outputs[place]? with
        | some o => some o.meaning
        | none => some .null⟩

def restrict (tests : List Meaning) (b : Block Relation) : Block Relation :=
  if b.limit?.isSome ∨ b.hasPasses then b
  else
    let own := tests.map (Meaning.exchange b.naming)
    if b.isGrouped then { b with having := b.having ++ own }
    else { b with tests := b.tests ++ own.map fun e => ⟨e, none⟩ }

def mostSteps : Nat := 10000

def passes (b : Block Relation) : List (Pass Meaning) :=
  Pass.arrange
    ((b.outputs.map Output.meaning ++ b.order.map Prod.fst).flatMap Meaning.passes)

def base (b : Block Relation) : Block Relation :=
  let order := (b.passes.head?.map Pass.order).getD []
  let plain (e : Meaning) : Meaning := { e with passes := [] }
  { b with
    outputs := b.outputs.map fun o => { o with meaning := plain o.meaning }
    isDistinct := false, order, limit? := none, offset? := none, isComplex := false }

def answerPasses (b : Block Relation) (reduced : Block Relation) (back : Moment → Moment) :
    Except Error Answer := do
  let found ← reduced.moveTests.find
  let results ← b.directions
  let rows (around : Surroundings) : Flow Row :=
    let all := ((found.moments around).map back).whole fun all => do
      return .ofList (← b.passes.foldlM (fun all p => p.run all) all)
    let once := if b.isDistinct then distinct results all else all
    let sorted := if b.order.isEmpty then once else sort b.order once
    cut b.limit? b.offset? around (sorted.map (rowAt b.outputs))
  return ⟨found.expected, rows⟩

/-- What a query comes to; queries that several take the place of are gone into as many levels as are
given. -/
def answerTo : Nat → Rank → Block Relation → Except Error Answer
  | 0, _, _ => .error (.query .tooDeep)
  | n + 1, rank, b =>
    if b.hasPasses then
      match b.base.reduce rank false mostSteps id 0 with
      | .one reduced back => b.answerPasses reduced back
      | .many u => u.answer (answerTo n .part)
    else
      match b.reduce rank true mostSteps id 0 with
      | .one reduced _ => do
        let b := reduced.gather.moveTests
        let found ← b.find
        let results ← b.directions
        return ⟨found.expected, fun around => b.rows found results around (found.moments around)⟩
      | .many u => u.answer (answerTo n .part)

def mostLevels : Nat := 1000

def answer (rank : Rank) (b : Block Relation) : Except Error Answer := answerTo mostLevels rank b

end Block

def Union.restricted (u : Union Relation) (tests : List Meaning) : Except Error Answer :=
  let blocks := u.first :: u.others.map Prod.snd
  let isWhole := u.limit?.isSome || blocks.any Block.hasPasses
  let own (b : Block Relation) : Block Relation := if isWhole then b else b.restrict tests
  let restricted : Union Relation :=
    { u with first := own u.first, others := u.others.map fun (compound, b) => (compound, own b) }
  restricted.answer (Block.answer .part)

namespace Block

def fields (b : Block Relation) : List Field :=
  b.outputs.map fun o =>
    { Field.plain o.name o.meaning.affinity (o.meaning.collation.getD Definition.plainCollation) with
      home := o.home }

def meanings (b : Block Relation) : List Meaning :=
  b.outputs.map Output.meaning ++ b.tests.map Test.meaning ++ b.groups.map Prod.fst ++ b.having ++
    b.order.map Prod.fst ++ b.leaves.flatMap Leaf.arguments

def reads (b : Block Relation) : List Read := b.meanings.flatMap Meaning.reads

def outwardReads (b : Block Relation) : List Read :=
  (b.reads.filterMap fun r => if r.depth = 0 then none else some { r with depth := r.depth - 1 }) ++
    b.leaves.flatMap fun leaf => leaf.relation.reads

def placesRead (b : Block Relation) (table : Nat) : List Nat :=
  (b.reads.filterMap fun r =>
    if r.depth = 0 ∧ r.table = table then r.place else none).eraseDups

def noteReads (b : Block Relation) : Block Relation :=
  { b with
    leaves := b.leaves.zipIdx.map fun (leaf, i) => { leaf with columns := b.placesRead i } }

def relation (rank : Rank) (b : Block Relation) : Relation :=
  ⟨b.fields, true, b.outwardReads, none, none, [b], false, false, none, fun tests =>
    (b.restrict tests).answer rank⟩

end Block

namespace Union

def plainBlocks (u : Union Relation) : List (Block Relation) :=
  if u.order.isEmpty ∧ u.others.all fun o => o.1 = .unionAll then
    let all := u.first :: u.others.map Prod.snd
    all.modify (all.length - 1) fun b => { b with limit? := u.limit?, offset? := u.offset? }
  else []

def relation (u : Union Relation) : Relation :=
  let blocks := u.first :: u.others.map Prod.snd
  let fields := u.first.fields.map fun f => { f with home := none }
  ⟨fields, true, blocks.flatMap Block.outwardReads, none, none, u.plainBlocks, false, false, none,
    u.restricted⟩

end Union

end Motif.Database
