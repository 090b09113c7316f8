import Motif.Database.Plan.Clause

/-!
What follows from a condition that is true: that another is, that something is not null, or that a
table has a row.
-/

set_option autoImplicit false

namespace Motif.Database.Meaning

open Sql

/-- Whether something is not null where an expression is true, or is not null itself if no more than
that is known; goes down as many levels as are given. -/
def fillsTo (goal : Meaning) : Nat → (isOnlyFilled : Bool) → Meaning → Bool
  | 0, _, _ => false
  | n + 1, isOnlyFilled, e =>
    let any (isOnlyFilled : Bool) (parts : List Meaning) : Bool :=
      parts.any (fillsTo goal n isOnlyFilled)
    if e.same goal then goal.operation ≠ .literal .null
    else
      match e.operation with
      | .among => any true (e.parts.take 1)
      | .amongRows .. => !isOnlyFilled && any true (e.parts.take 1)
      | .between => !isOnlyFilled && any true (e.parts.drop 1 ++ e.parts.take 1)
      | .compare .same _ | .compare .distinct _ => false
      | .compare .. => any true e.parts.reverse
      | .arithmetic op =>
        match op with
        | .add | .subtract | .bitOr | .shiftLeft | .shiftRight | .join => any true e.parts.reverse
        | .multiply | .divide | .remainder | .bitAnd => any isOnlyFilled e.parts.reverse
      | .collate _ | .positive | .negative => any isOnlyFilled e.parts
      | .truth _ isSame => !isOnlyFilled && isSame && any true e.parts
      | .complement | .not => any true e.parts
      | _ => false

def fills (e goal : Meaning) : Bool := fillsTo goal Expr.mostLevels false e

def impliesTo (e : Meaning) : Nat → Meaning → Bool
  | 0, _ => false
  | n + 1, goal =>
    e.same goal ||
      match goal.operation with
      | .or => goal.parts.any (impliesTo e n)
      | .notNull => goal.parts.any e.fills
      | _ => false

def implies (e goal : Meaning) : Bool := impliesTo e Expr.mostLevels goal

/-- Whether a table has a row where an expression is not null. Modules may find rows by null. -/
def needsRowTo (isForeign : Nat → Bool) (table : Nat) : Nat → Meaning → Bool
  | 0, _ => false
  | n + 1, e =>
    let needs (e : Meaning) : Bool := needsRowTo isForeign table n e
    let isForeignColumn (e : Meaning) : Bool :=
      e.column.any fun r => r.depth = 0 && isForeign r.table
    match e.operation with
    | .compare .same _ | .compare .distinct _ | .isNull | .notNull | .or | .row | .choice | .among
    | .amongRows .. | .call _ | .truth .. | .exists _ | .query | .known _ => false
    | .column r => r.depth = 0 && r.table = table
    | .and => !e.parts.isEmpty && e.parts.all needs
    | .between => (e.parts.take 1).any needs
    | .compare .. => !(e.parts.any isForeignColumn) && e.parts.any needs
    | _ => e.parts.any needs

/-- What a condition asks for that is looked at by itself: that something is not null means that the
table has a row. Behind another condition it is looked at in parts. -/
def asksRowTo (isForeign : Nat → Bool) (table : Nat) : Nat → (isFirst : Bool) → Meaning → Bool
  | 0, _, _ => false
  | n + 1, isFirst, e =>
    let needs (e : Meaning) : Bool := needsRowTo isForeign table Expr.mostLevels e
    let e := if isFirst then e.bare else e
    match e.operation, e.parts with
    | .notNull, [part] => isFirst && needs part
    | .and, [a, b] => asksRowTo isForeign table n true a || asksRowTo isForeign table n false b
    | _, _ => needs e

def asksRow (isForeign : Nat → Bool) (table : Nat) (isFirst : Bool) (e : Meaning) : Bool :=
  asksRowTo isForeign table Expr.mostLevels isFirst e

end Motif.Database.Meaning
