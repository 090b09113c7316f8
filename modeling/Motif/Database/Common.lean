import Motif.Sql.Constant
import Motif.Sql.Parser.Term

/-!
Queries with names: how often they are read, as tables of queries and of each other. Those that are
read more than once are kept.
-/

set_option autoImplicit false

namespace Motif.Database.Common

open Sql

def queriesIn (e : Term) : List Query :=
  e.all.filterMap fun part =>
    match part with
    | .amongRows _ q | .exists q | .scalar q => some q
    | _ => none

def total (counts : List Nat) : Nat := counts.foldl (· + ·) 0

def windowTerms (w : Window Term) : List Term := w.parts ++ w.order.map Order.key

/-- The terms of a part of a query, apart from what functions among its tables are given. -/
def branchTerms : Branch Term Query → List Term
  | .values rows => rows.flatten
  | .select core =>
    let shown := core.shown.filterMap fun shown =>
      match shown with
      | .one e _ _ => some e
      | _ => none
    shown ++ core.items.flatMap (fun item => item.on.toList) ++ core.condition.toList ++
      core.groups ++ core.having.toList ++ core.windows.flatMap fun w => windowTerms w.2

/-- How often a name is read by the tables and terms of a query, if it is known how often it is read
by queries in it. -/
def readingsOf (within : Query → Nat) (name : String) (body : Body Term Query) : Nat :=
  let inTerms (terms : List Term) : Nat := total ((terms.flatMap queriesIn).map within)
  let inItem (item : Item Term Query) : Nat :=
    match item.origin with
    | .table none table _ => if sameName table name then 1 else 0
    | .table .. => 0
    | .call _ _ arguments => inTerms arguments
    | .query q | .join q => within q
  let branches := body.first :: body.others.map Prod.snd
  let items := branches.flatMap fun b =>
    match b with
    | .select core => core.items
    | .values _ => []
  total (items.map inItem) + inTerms (branches.flatMap branchTerms) +
    inTerms (body.order.map Order.key ++ body.limit.toList ++ body.offset.toList)

/-- How often a name is read by a query, with the queries that have names in it as often as they are
read themselves. Those on the way are not gone into again. Goes down as many levels as are given. -/
def readings : Nat → List String → String → Body Term Query → Nat
  | 0, _, _, _ => 0
  | n + 1, path, name, body =>
    let within (name : String) (q : Query) : Nat :=
      match q with
      | .of inner =>
        if inner.commons.any fun c => sameName c.name name then 0 else readings n [] name inner
    let others := body.commons.filter fun c => !(name :: path).any (sameName c.name)
    let ofOthers := others.map fun c =>
      match within name c.query with
      | 0 => 0
      | count => count * readings n (name :: path) c.name body
    readingsOf (within name) name body + total ofOthers

def mostLevels : Nat := 200

def settled (body : Body Term Query) : List (Sql.Common Query) :=
  body.commons.map fun c =>
    { c with isKept := some (c.isKept.getD (2 ≤ readings mostLevels [] c.name body)) }

end Motif.Database.Common
