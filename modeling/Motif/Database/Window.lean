import Motif.Database.Direction
import Motif.Database.Meaning
import Motif.Sql.Signature

/-!
Functions of the rows around a row: the rows are put in order and in parts, and the function is worked
out for each row of a part.
-/

set_option autoImplicit false

namespace Motif.Database.Meaning

open Sql

def argumentsOf (arguments : List Meaning) (m : Moment) : Except Error (List Argument) :=
  arguments.mapM fun e => do
    let c ← e.value m
    return ⟨c, e.givesTree c⟩

def counts (filter? : Option Meaning) (m : Moment) : Except Error Bool :=
  match filter? with
  | some e => do return (← e.value m).truth? = some true
  | none => .ok true

def aggregateCollation (name : String) (distinct : Bool) (arguments : List Meaning) :
    Except Error Collation :=
  collationOf <|
    if distinct || Aggregate.compares name then arguments.findSome? Meaning.collation else none

/-- A call of a function of windows, ready to be worked out. -/
structure Windowed where
  name : String
  place : Nat
  arguments : List Meaning
  filter? : Option Meaning
  parts : List (Meaning × Direction)
  order : List (Meaning × Direction)
  frame : Frame Meaning
  collation : Collation

namespace Windowed

def groupNumbers (ds : List Direction) : Nat → List (List Cell) → List Nat
  | _, [] => []
  | n, [_] => [n]
  | n, a :: b :: rest =>
    n :: groupNumbers ds (if Direction.compareAll ds a b == .eq then n else n + 1) (b :: rest)

def partition (w : Windowed) (keys : List (List Cell)) : Partition :=
  let ds := w.order.map Prod.snd
  let compare (a b : Cell) : Ordering :=
    match ds with
    | d :: _ => d.compare a b
    | [] => .eq
  ⟨(groupNumbers ds 0 keys).toArray, (keys.map fun k => k.headD .null).toArray, compare,
    ds.any Direction.descending⟩

def distance (w : Windowed) (m : Moment) (flaw : Bool → Flaw) (e : Meaning) : Except Error Cell := do
  let isRange := w.frame.spacing = .range
  (Sql.Windowed.distance isRange (flaw isRange) (← e.value m)).mapError .query

/-- Works the function out for all rows of a part. -/
def runPart (w : Windowed) (rows : List (List Cell × Moment)) : Except Error (List Moment) := do
  match rows with
  | [] => return []
  | (_, m) :: _ =>
    let p := w.partition (rows.map fun r => r.1.drop w.parts.length)
    let frame ← w.frame.mapM (w.distance m .frameStart) (w.distance m .frameEnd)
    let given := (← rows.mapM fun r => argumentsOf w.arguments r.2).toArray
    let kept := (← rows.mapM fun r => counts w.filter? r.2).toArray
    let cells := given.map fun row => row.map Argument.cell
    rows.zipIdx.mapM fun ((_, m), i) => do
      let seen := p.rows frame i
      let value :=
        if (Sql.Windowed.takes? w.name).isSome then Sql.Windowed.apply w.name p cells seen i
        else
          Aggregate.apply w.name w.collation
            ((seen.filter fun r => kept[r]?.getD false).map fun r => given[r]?.getD [])
      return { m with windows := (w.place, ← value.mapError .query) :: m.windows }

def run (w : Windowed) (moments : List Moment) : Except Error (List Moment) := do
  let keys := w.parts ++ w.order
  let keyed ← moments.mapM fun m => do return (← keys.mapM fun k => k.1.value m, m)
  let sorted := (Direction.sort (keys.map Prod.snd) keyed).map fun r => (r.1, r)
  let found ← (Direction.groups (w.parts.map Prod.snd) sorted).mapM w.runPart
  return found.flatten

end Windowed

/-- A call of a function of the rows around a row. -/
def windowed (name : String) (place : Nat) (arguments : List Meaning) (filter? : Option Meaning)
    (parts : List Meaning) (order : List (Meaning × Direction)) (frame : Frame Meaning) :
    Except Error Meaning := do
  let flaw (f : Flaw) : Except Error Meaning := .error (.query f)
  if (frame.first.hasDistance || frame.last.hasDistance) ∧ frame.spacing = .range ∧
      order.length ≠ 1 then
    flaw .frameOrder
  else if (Sql.Windowed.takes? name).isSome ∧ filter?.isSome then flaw .windowFilter
  else
    let parts ← parts.mapM fun e => do return (e, Direction.plain (← collationOf e.collation))
    let w : Windowed :=
      ⟨name, place, arguments, filter?, parts, order, frame,
        ← aggregateCollation name false arguments⟩
    let keys := parts ++ order
    let whole := made (.window place) (arguments ++ filter?.toList ++ keys.map Prod.fst) fun m =>
      .ok ((m.windows.lookup place).getD .null)
    return { whole with passes := [⟨keys.map fun k => (k.1.column, k.2.descending), keys, w.run⟩] }

end Motif.Database.Meaning
