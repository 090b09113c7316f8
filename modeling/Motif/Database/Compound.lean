import Motif.Database.Block.Absorb

/-!
The rows of several queries put together.
-/

set_option autoImplicit false

namespace Motif.Database

open Sql

namespace Union

/-- Rows of two queries put together. Other than one behind the other they are put in order, and
each is there once: of equal ones the last that comes up. Where the order is told, each query gives
the first of its equal ones, and the second query comes before the first. -/
def combine (isOrdered : Bool) (compound : Compound) (ds : List Direction) (a b : Flow Row) :
    Flow Row :=
  match compound with
  | .unionAll => a.append fun _ => b
  | _ =>
    .ofExcept do
      let keyed (rows : Flow Row) : Except Error (List (List Cell × List Cell)) :=
        (rows.mapM fun r => do
          let cells ← r.cells ds.length
          return (cells, cells)).all
      let left ← keyed a
      let right ← keyed b
      let isIn (others : List (List Cell × List Cell)) (r : List Cell × List Cell) : Bool :=
        others.any fun other => Direction.compareAll ds other.1 r.1 == .eq
      let once := if isOrdered then Direction.distinct ds else Direction.latest ds
      let kept :=
        match compound with
        | .union => once left ++ once right
        | .except => left.filter fun r => !isIn right r
        | _ => left.filter (isIn right)
      let found := if compound = .union then Direction.latest ds kept else once kept
      return .ofList ((Direction.sort ds found).map fun r => .ofCells r.1)

def expected (compound : Compound) (a b : Logarithm) : Logarithm :=
  match compound with
  | .union | .unionAll => a.plus b
  | .except => b
  | .intersect => min a b

def directions (blocks : List (Block Relation)) (width : Nat) : Except Error (List Direction) :=
  (List.range width).mapM fun place => do
    let own := blocks.findSome? fun b =>
      (b.outputs[place]?).bind fun o => o.meaning.collation
    return .plain (← Meaning.collationOf own)

/-- A query in the order of those that it is put together with. Where rows come only once all
columns count. -/
def inOrder (order : List (Nat × Direction × String)) (isWhole : Bool) (b : Block Relation) :
    Block Relation :=
  let more := if isWhole ∧ !order.isEmpty then
      (List.range b.outputs.length).filter fun i => !order.any fun o => o.1 = i
    else []
  let given := order.filterMap fun (place, d, name) =>
    b.outputs[place]?.map fun o => (Meaning.collated name o.meaning, d)
  let rest := more.filterMap fun place =>
    b.outputs[place]?.map fun o =>
      (o.meaning, Direction.plain ((Meaning.collationOf o.meaning.collation).toOption.getD .binary))
  { b with order := given ++ rest }

/-- What some queries come to that are put together, if it is known what each comes to. -/
def answer (opening : Block Relation → Except Error Answer) (u : Union Relation) :
    Except Error Answer := do
  let width := u.first.outputs.length
  let blocks := u.first :: u.others.map Prod.snd
  let ds ← directions blocks width
  let isWhole (place : Nat) : Bool := (u.others.drop (place - 1)).any fun o => o.1 ≠ .unionAll
  let answers ← blocks.zipIdx.mapM fun (b, place) => opening (inOrder u.order (isWhole place) b)
  match answers with
  | [] => return ⟨0, fun _ => .ofList []⟩
  | first :: rest =>
    let others := (u.others.map Prod.fst).zip rest
    let most := others.foldl (fun n (compound, b) => expected compound n b.expected) first.expected
    let wanted? := (u.limit?.bind Meaning.smallInteger?).filter (0 < ·)
    let limited := match wanted? with
      | some n => min most (logarithm n.toNat)
      | none => most
    let rows (around : Surroundings) : Flow Row :=
      let settled (a : Answer) : Flow Row := (a.rows around).mapM (Row.settled width)
      let combined := others.foldl (fun found (compound, b) =>
        combine (!u.order.isEmpty) compound ds found (settled b)) (settled first)
      let sorted :=
        if u.order.isEmpty then combined
        else
          (combined.mapM fun r => do
            return (← u.order.mapM fun o => r.cell o.1, r)).whole fun keyed =>
              .ok (.ofList ((Direction.sort (u.order.map fun o => o.2.1) keyed).map Prod.snd))
      Block.cut u.limit? u.offset? around sorted
    return ⟨limited, rows⟩

end Union

end Motif.Database
