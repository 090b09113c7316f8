import Motif.Database.Meaning

/-!
Which expressions are the same, apart from the tables that they are worked out for.
-/

set_option autoImplicit false

namespace Motif.Database

open Sql

/-- How two expressions differ: not at all, in how they are compared, or in more than that. -/
inductive Difference where
  | none
  | collation
  | more
deriving DecidableEq

namespace Operation

def sameLiteral (a b : Literal) : Bool :=
  let small? : Literal → Option Nat
    | .integer digits => Literal.number.small? digits.toList
    | _ => none
  match small? a, small? b with
  | some m, some n => m == n
  | none, none => a == b
  | _, _ => false

/-- Whether two operations do the same with the same parts. Queries are never the same. -/
def isSame (a b : Operation) : Bool :=
  match a, b with
  | .literal l, .literal k => sameLiteral l k
  | .column r, .column s | .column r, .known s | .known r, .column s | .known r, .known s => r == s
  | .collate c, .collate d => sameName c d
  | .call f, .call g => sameName f g
  | .aggregate f distinct filtered, .aggregate g distinct' filtered' =>
    sameName f g && distinct == distinct' && filtered == filtered'
  | _, _ => a == b && !a.asks

end Operation

namespace Meaning

def ownParts (e : Meaning) : List Meaning :=
  match e.operation with
  | .known _ => []
  | _ => e.parts

/-- How two expressions differ; goes down as many levels as are given. -/
def differenceTo : Nat → Meaning → Meaning → Difference
  | 0, _, _ => .more
  | n + 1, a, b =>
    let isSame : Bool :=
      a.operation.isSame b.operation && a.ownParts.length == b.ownParts.length &&
        (a.ownParts.zip b.ownParts).all fun (p, q) => differenceTo n p q == .none
    let within (part? : Option Meaning) (other : Meaning) (isFirst : Bool) : Bool :=
      match part? with
      | some part =>
        let found := if isFirst then differenceTo n part other else differenceTo n other part
        found != .more
      | none => false
    if isSame then .none
    else
      match a.operation, b.operation with
      | .collate _, .collate _ => .more
      | .collate _, _ => if within a.parts.head? b true then .collation else .more
      | _, .collate _ => if within b.parts.head? a false then .collation else .more
      | _, _ => .more

def difference (a b : Meaning) : Difference := differenceTo Expr.mostLevels a b

def same (a b : Meaning) : Bool := a.difference b == .none

def alike (a b : Meaning) : Bool := a.bare.difference b.bare == .none

end Meaning

end Motif.Database
