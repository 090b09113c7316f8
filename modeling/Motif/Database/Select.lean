import Motif.Database.Block
import Motif.Database.Scope

/-!
The clauses of a query: the names of its results, and what terms of an order stand for.
-/

set_option autoImplicit false

namespace Motif.Database

open Sql
open Context (flaw)

namespace Select

def withoutNumber (name : String) : String :=
  let turned := name.toList.reverse
  match turned.dropWhile Char.isDigit with
  | ':' :: front => String.ofList front.reverse
  | _ => name

def distinctNames (names : List String) : List String :=
  names.foldl (fun found name =>
    let isFree (n : String) : Bool := !(found.any (sameName n))
    let base := withoutNumber name
    let numbered := (List.range (names.length + 1)).map fun i => s!"{base}:{i + 1}"
    found ++ [if isFree name then name else (numbered.find? isFree).getD name]) []

def columnNames (names : List String) : List String :=
  distinctNames <| names.zipIdx.map fun (name, i) =>
    if ["true", "false"].contains (Token.lower name) then s!"column{i + 1}" else name

/-- An expression without what only says how it is compared, or how likely it is. -/
def bare (e : Term) : Term × Option String := go Expr.mostLevels e
where
  go : Nat → Term → Term × Option String
    | n + 1, .collate e collation => ((go n e).1, some collation)
    | n + 1, .call name false (some (e :: rest)) none none =>
      let isLikely := ["likely", "unlikely"].contains (Token.lower name) && rest.isEmpty
      let hasChance := Token.lower name == "likelihood" && rest.length == 1
      if isLikely ∨ hasChance then go n e
      else (.call name false (some (e :: rest)) none none, none)
    | _, e => (e, none)

def position? (e : Term) : Option Int := go Expr.mostLevels (bare e).1
where
  go : Nat → Term → Option Int
    | _, .literal (.integer digits) => (Literal.number.small? digits.toList).map Int.ofNat
    | n + 1, .positive e => go n e
    | n + 1, .negative e => (go n e).map (-·)
    | _, _ => none

def ordinal (n : Nat) : String :=
  let suffix :=
    if n / 10 % 10 = 1 then "th"
    else if n % 10 = 1 then "st"
    else if n % 10 = 2 then "nd"
    else if n % 10 = 3 then "rd"
    else "th"
  s!"{n}{suffix}"

def placeOf? (clause : String) (width i : Nat) (e : Term) : Except Error (Option Nat) :=
  match position? e with
  | none => .ok none
  | some n =>
    if 1 ≤ n ∧ n ≤ width then .ok (some (n.toNat - 1))
    else flaw (.orderTerm (ordinal (i + 1)) clause width)

def labelled? (outputs : List Output) (e : Term) : Option Nat :=
  match (bare e).1 with
  | .name n =>
    if n.path.isEmpty then outputs.findIdx? fun o => o.label.any (sameName n.column) else none
  | _ => none

def compared (e : Term) (m : Meaning) : Meaning :=
  match e with
  | .collate _ collation => .collated collation m
  | _ => m

def resultOf? (outputs : List Output) (i : Nat) (e : Term) : Except Error (Option Meaning) := do
  let place? := (labelled? outputs e).or (← placeOf? "ORDER" outputs.length i e)
  return (place?.bind fun place => outputs[place]?).map fun o => compared e o.meaning

def aggregateIn? (e : Term) : Option String :=
  e.all.findSome? fun part =>
    match part with
    | .call name _ arguments _ none =>
      if Aggregate.isCalled name (arguments.getD []).length then some name else none
    | _ => none

def isComplex (e : Term) : Bool :=
  e.all.any fun part =>
    match part with
    | .call .. | .amongRows .. | .exists _ | .scalar _ => true
    | _ => false

def directionOf (o : Order Term) (e : Meaning) : Except Error Direction := do
  return ⟨← Meaning.collationOf e.collation, o.descending, o.nullsFirst⟩

def orderOf (outputs : List Output) (isGrouped : Bool) (meaning : Term → Except Error Meaning)
    (order : List (Order Term)) : Except Error (List (Meaning × Direction)) :=
  order.zipIdx.mapM fun (o, i) => do
    let e ← match ← resultOf? outputs i o.key with
      | some found => pure found
      | none => meaning o.key
    match aggregateIn? o.key with
    | some name => if e.hasAggregate ∧ !isGrouped then flaw (.misusedInOrder name)
    | none => pure ()
    return (e, ← directionOf o e)

/-- A query among others, with what expressions mean in it. -/
structure Strand where
  block : Block Relation
  meaning : Term → Except Error Meaning

def Strand.columnOf? (p : Strand) (e : Term) : Option Nat :=
  (labelled? p.block.outputs e).or <|
    match p.meaning (bare e).1 with
    | .ok m => p.block.outputs.findIdx? fun o => o.meaning.difference m != .more
    | .error _ => none

/-- The terms of an order over the columns of queries that are put together: their places, their
directions, and how they are compared. -/
def compoundOrder (parts : List Strand) (order : List (Order Term)) :
    Except Error (List (Nat × Direction × String)) := do
  let width := ((parts.head?).map fun p => p.block.outputs.length).getD 0
  let places ← order.zipIdx.mapM fun (o, i) => do
    match ← placeOf? "ORDER" width i o.key with
    | some place => return some place
    | none => return parts.findSome? fun p => p.columnOf? o.key
  (order.zip places).zipIdx.mapM fun ((o, place?), i) => do
    match place? with
    | none => flaw (.orderColumn (ordinal (i + 1)))
    | some place =>
      let own := parts.findSome? fun p =>
        (p.block.outputs[place]?).bind fun o => o.meaning.collation
      let name := ((bare o.key).2.or own).getD Definition.plainCollation
      return (place, ⟨← Meaning.collationOf (some name), o.descending, o.nullsFirst⟩, name)

def readsOf (name : String) : Branch Term Query → Nat
  | .select core => core.items.countP fun item =>
    match item.origin with
    | .table none table _ => sameName table name
    | _ => false
  | .values _ => 0

end Select

end Motif.Database
