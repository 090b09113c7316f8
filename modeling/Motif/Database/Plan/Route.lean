import Motif.Database.Plan.Sequence

/-!
Routes: the steps of a join one after the other. Routes grow step by step, and only the best of those
that are equally long are followed.
-/

set_option autoImplicit false

namespace Motif.Database

/-- Some steps, with what is expected of them. -/
structure Route where
  steps : List Step
  tables : Tables
  rows : Logarithm
  cost : Logarithm
  plain : Logarithm
  /-- By how many terms of the order the rows are in order; none if it is not known yet. -/
  ordered? : Option Nat
  sequence : Sequence

namespace Route

def start (ordered? : Option Nat) : Route := ⟨[], .none, 0, 0, 0, ordered?, .start⟩

def mayTake (r : Route) (s : Step) : Bool :=
  s.needs.within r.tables && !s.self.meets r.tables && !(s.way = .sorted && r.rows < 3)

def isNotWorse (a b : Route) : Bool :=
  a.cost < b.cost ||
    (a.cost = b.cost && (a.rows < b.rows || (a.rows = b.rows && a.plain ≤ b.plain)))

end Route

/-- The best routes of one length, with the one that goes first if a better one is found. -/
structure Routes where
  best : List Route
  worst : Nat
  cost : Logarithm
  plain : Logarithm

namespace Routes

/-- Finds the route that goes first. What its rows are counts for what it costs, as long as it is the
first of all. -/
def findWorst (best : List Route) : Nat × Logarithm × Logarithm :=
  match best with
  | [] => (0, 0, 0)
  | first :: rest =>
    rest.zipIdx.foldl (fun (i, cost, plain) (r, k) =>
      if cost < r.cost ∨ (r.cost = cost ∧ plain < r.plain) then (k + 1, r.cost, r.plain)
      else (i, cost, plain)) (0, first.cost, first.rows)

def put (most : Nat) (rs : Routes) (i : Nat) (r : Route) : Routes :=
  let best := if i < rs.best.length then rs.best.set i r else rs.best ++ [r]
  if best.length < most then { rs with best }
  else
    let (worst, cost, plain) := findWorst best
    ⟨best, worst, cost, plain⟩

/-- Takes a route in if it is better than one over the same tables, or than any other. -/
def insert (most : Nat) (rs : Routes) (r : Route) : Routes :=
  let isSame (other : Route) : Bool :=
    other.tables = r.tables && other.ordered?.isSome == r.ordered?.isSome
  match rs.best.findIdx? isSame with
  | some i =>
    if (rs.best[i]?).any fun other => other.isNotWorse r then rs else rs.put most i r
  | none =>
    if rs.best.length < most then rs.put most rs.best.length r
    else if rs.cost < r.cost ∨ (r.cost = rs.cost ∧ rs.plain ≤ r.plain) then rs
    else rs.put most rs.worst r

end Routes

namespace Joined

def sortingCost (w : Wish) (rows : Logarithm) (ordered : Nat) : Logarithm :=
  let count := w.terms.length
  let scale := logarithm ((count - ordered) * 100 / count) - 66
  let limited := w.limit?.filter fun limit => limit < rows
  let wanted := match limited with
    | some limit => limit
    | none => if w.isDistinct ∧ 10 < rows then rows - 10 else rows
  rows + scale + 16 + wanted.halvings

/-- A route with one more step. It is good not to have to put rows in order. -/
def extend (j : Joined) (expected? : Option Logarithm) (r : Route) (s : Step) : Route :=
  let plain := (s.setup.plus (s.work + r.rows)).plus r.plain
  let steps := r.steps ++ [s]
  let (ordered?, sequence) :=
    match r.ordered? with
    | some _ => (r.ordered?, r.sequence)
    | none => j.sequence j.wish.terms j.wish.purpose false steps
  let next : Route := ⟨steps, r.tables ||| s.self, r.rows + s.rows, plain, plain, ordered?, sequence⟩
  match expected?, ordered? with
  | some rows, some ordered =>
    if ordered < j.wish.terms.length then
      { next with cost := plain.plus (sortingCost j.wish rows ordered) + 5 }
    else { next with plain := plain - 2 }
  | some _, none => { next with plain := plain - 2 }
  | none, _ => { next with plain := plain - 2 }

def mostRoutes (tables : Nat) : Nat :=
  if tables ≤ 1 then 1 else if tables = 2 then 5 else 10

/-- The best route over some number of tables. The order counts if it is known how many rows there
are. -/
def route? (j : Joined) (count : Nat) (steps : List Step) (expected? : Option Logarithm) :
    Option Route :=
  let most := mostRoutes count
  let start : Route := .start <|
    if expected?.isNone ∨ j.wish.terms.isEmpty then some 0
    else if count = 0 then some j.wish.terms.length
    else none
  let grow (routes : List Route) : List Route :=
    (routes.foldl (fun found r =>
      (steps.filter r.mayTake).foldl (fun (found : Routes) s =>
        found.insert most (j.extend expected? r s)) found) ⟨[], 0, 0, 0⟩).best
  match (List.range count).foldl (fun routes _ => grow routes) [start] with
  | [] => none
  | first :: rest => some (rest.foldl (fun best r => if r.cost < best.cost then r else best) first)

end Joined

end Motif.Database
