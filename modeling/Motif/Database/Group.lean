import Motif.Database.Relation
import Motif.Database.Window

/-!
Rows in groups, and the row that stands for a group: the first, or one that has the least or the
greatest value that is asked for.
-/

set_option autoImplicit false

namespace Motif.Database

open Sql

/-- The least or the greatest value of a group, which one of its rows has. -/
structure Extreme where
  wanted : Ordering
  argument : Meaning
  isDistinct : Bool
  filter? : Option Meaning
  collation : Collation

namespace Extreme

def ofMeaning? (e : Meaning) : Option Extreme :=
  match e.operation, e.parts with
  | .aggregate name isDistinct hasFilter, argument :: rest =>
    let wanted? : Option Ordering :=
      match Token.lower name with
      | "max" => some .gt
      | "min" => some .lt
      | _ => none
    wanted?.map fun wanted =>
      let collation := (Meaning.collationOf argument.collation).toOption.getD .binary
      ⟨wanted, argument, isDistinct, if hasFilter then rest.head? else none, collation⟩
  | _, _ => none

def aggregatesTo : Nat → Meaning → List Meaning
  | 0, _ => []
  | n + 1, e =>
    match e.operation with
    | .aggregate .. => [e]
    | _ => e.parts.flatMap (aggregatesTo n)

def aggregates (es : List Meaning) : List Meaning :=
  (es.flatMap (aggregatesTo Expr.mostLevels)).foldl (fun found e =>
    if found.any e.same then found else found ++ [e]) []

end Extreme

/-- What is known of an extreme: the best value, and the values that have come up. -/
structure Extreme.Standing where
  best? : Option Cell
  seen : List Cell

/-- What is known of a group as far as it has been gone through: the row that stands for it, and
whether the next one is passed over unless it has an extreme. -/
structure Group.Standing where
  row? : Option (List Row)
  extremes : List Extreme.Standing
  passes : Bool

namespace Group

/-- Looks at the value of an extreme in a row; tells whether the row is passed over. A null stands for
a group as long as there is no value. -/
def meet (x : Extreme) (s : Extreme.Standing) (c : Cell) : Extreme.Standing × Bool :=
  match s.best? with
  | none => if c.isNull then (s, false) else ({ s with best? := some c }, false)
  | some best =>
    if !c.isNull ∧ x.collation.compare c best = x.wanted then ({ s with best? := some c }, false)
    else (s, true)

/-- Looks at all extremes in a row; the last one that is looked at tells whether it is passed over.
One with a filter only counts where that is true, but for the first row of a group. -/
def meetAll (m : Moment) (isFirst hasPlain : Bool) :
    Bool → List (Extreme × Extreme.Standing) → Except Error (List Extreme.Standing × Bool)
  | passes, [] => .ok ([], passes)
  | passes, (x, s) :: rest => do
    let passes := if x.filter?.isSome ∧ !hasPlain then !isFirst else passes
    let (s, passes) ←
      if ← Meaning.counts x.filter? m then do
        let c ← x.argument.value m
        let isKnown := x.isDistinct && s.seen.any fun other => x.collation.compare other c = .eq
        let (next, passes) := if isKnown then (s, passes) else meet x s c
        pure ({ next with seen := c :: s.seen }, passes)
      else pure (s, passes)
    let (others, passes) ← meetAll m isFirst hasPlain passes rest
    return (s :: others, passes)

def representative (around : Surroundings) (isWhole : Bool) (extremes : List Extreme)
    (missing : List Row) (group : List (List Row)) : Except Error (List Row) := do
  let hasPlain := isWhole && extremes.any fun x => x.filter?.isNone
  let start : Standing := ⟨none, extremes.map fun _ => ⟨none, []⟩, false⟩
  let found ← group.foldlM (fun (s : Standing) rows => do
    let isFirst := s.row?.isNone
    let (standings, passes) ←
      meetAll (.ofRows (rows :: around)) isFirst hasPlain s.passes (extremes.zip s.extremes)
    let passes := if extremes.isEmpty then !isFirst else passes
    return (⟨if passes then s.row? else some rows, standings, passes⟩ : Standing)) start
  return found.row?.getD missing

/-- Rows in groups, each with the row that stands for it. Rows that are not in order are put in the
order of what is to be equal. -/
def moments (around : Surroundings) (keys : List (Meaning × Direction)) (isOrdered : Bool)
    (extremes : List Extreme) (missing : List Row) (rows : Flow (List Row)) : Flow Moment :=
  let keyed := rows.mapM fun rows => do
    return (← keys.mapM fun k => k.1.value (.ofRows (rows :: around)), rows)
  keyed.whole fun found => do
    let ds := keys.map Prod.snd
    let sorted := if isOrdered then found else Direction.sort ds found
    let groups := if keys.isEmpty then [found.map Prod.snd] else Direction.groups ds sorted
    let moments ← groups.mapM fun group => do
      let rows ← representative around keys.isEmpty extremes missing group
      return (⟨rows :: around, group, []⟩ : Moment)
    return .ofList moments

end Group

end Motif.Database
