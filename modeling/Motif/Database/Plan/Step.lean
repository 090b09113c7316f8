import Motif.Database.Plan.Scan

/-!
Steps: ways of reading one table of a join, with the work that is expected. Of two ways the one that
is never better is left out.
-/

set_option autoImplicit false

namespace Motif.Database

/-- The order in which the rows of a table are found. -/
inductive Way where
  | plain
  | track (place : Nat)
  | sorted
  | either
  | module
deriving DecidableEq

/-- A way of reading a table. -/
structure Step where
  table : Nat
  way : Way
  /-- The clauses that lead to rows; none for a part of a track that is skipped. -/
  uses : List (Option Clause)
  /-- How many parts of a track are tied to values, and how many of these are skipped. -/
  equals : Nat
  skips : Nat
  /-- Nothing is read but the track. -/
  isCovering : Bool
  hasValue : Bool
  hasValues : Bool
  hasLow : Bool
  hasHigh : Bool
  /-- There is one row at most. -/
  isSingle : Bool
  needs : Tables
  setup : Logarithm
  work : Logarithm
  rows : Logarithm
  order : Nat

namespace Step

def ofWay (table : Nat) (way : Way) (needs : Tables) : Step :=
  ⟨table, way, [], 0, 0, false, false, false, false, false, false, needs, 0, 0, 0, 0⟩

def self (s : Step) : Tables := .only s.table

def isTracked (s : Step) : Bool :=
  match s.way with
  | .track _ => true
  | _ => false

def hasRange (s : Step) : Bool := s.hasLow || s.hasHigh

def isUsing (s : Step) (c : Clause) : Bool := s.uses.any fun use => use.any fun u => u.path == c.path

def isCounted (s : Step) (place : Nat) (c : Clause) : Bool :=
  s.uses.any fun use => use.any fun u => u.path == c.path || u.parent? == some place

def isCheaperPart (a b : Step) : Bool :=
  let own (s : Step) : Int := Int.ofNat s.uses.length - Int.ofNat s.skips
  let costs := if a.work ≠ b.work then a.work < b.work else a.rows ≤ b.rows
  own a < own b && b.skips ≤ a.skips && costs &&
    (a.uses.all fun use => use.all b.isUsing) && (!a.isCovering || b.isCovering)

def adjust (others : List Step) (s : Step) : Step :=
  if !s.isTracked then s
  else
    others.foldl (fun (s : Step) other =>
      if other.table ≠ s.table ∨ !other.isTracked then s
      else if other.isCheaperPart s then { s with work := other.work, rows := other.rows - 1 }
      else if s.isCheaperPart other then { s with work := other.work, rows := other.rows + 1 }
      else s) s

/-- How a new way stands to one that there is. -/
inductive Contest where
  | apart
  | lost
  | won

def contest (old new : Step) : Contest :=
  if old.table ≠ new.table ∨ old.order ≠ new.order then .apart
  else if old.way = .sorted ∧ new.skips = 0 ∧ new.isTracked ∧ new.hasValue ∧
      new.needs.within old.needs then .won
  else if old.needs.within new.needs ∧ old.setup ≤ new.setup ∧ old.work ≤ new.work ∧
      old.rows ≤ new.rows then .lost
  else if new.needs.within old.needs ∧ new.work ≤ old.work ∧ new.rows ≤ old.rows then .won
  else .apart

def clear (new : Step) : List Step → List Step
  | [] => []
  | old :: rest =>
    match contest old new with
    | .apart => old :: clear new rest
    | .lost => old :: rest
    | .won => clear new rest

/-- Puts a new way in the place of the first one that it is better than, or behind all others, unless
one of those in front is better. -/
def place (new : Step) : List Step → List Step
  | [] => [new]
  | old :: rest =>
    match contest old new with
    | .apart => old :: place new rest
    | .lost => old :: rest
    | .won => new :: clear new rest

def insert (steps : List Step) (s : Step) : List Step := place (adjust steps s) steps

end Step

/-- What a way of reading a table for a part of a clause costs. -/
structure Cost where
  needs : Tables
  work : Logarithm
  rows : Logarithm
deriving DecidableEq

namespace Cost

def mostCosts : Nat := 3

/-- Takes a cost in among others, unless there is one that is better. If there are too many, it may
take the place of the smallest one. -/
def insert (costs : List Cost) (new : Cost) : List Cost :=
  let isBeaten (old : Cost) : Bool := new.work ≤ old.work && new.needs.within old.needs
  let beats (old : Cost) : Bool := old.work ≤ new.work && old.needs.within new.needs
  let put (i : Nat) : List Cost :=
    costs.modify i fun old => { new with rows := min old.rows new.rows }
  match costs.findIdx? fun old => isBeaten old || beats old with
  | some i => if (costs[i]?).any isBeaten then put i else costs
  | none =>
    if costs.length < mostCosts then costs ++ [new]
    else
      match costs.findIdx? fun c => costs.all fun other => c.work ≤ other.work with
      | some i => if (costs[i]?).any fun c => new.work < c.work then put i else costs
      | none => costs

def both (a b : List Cost) : List Cost :=
  a.foldl (fun found x => b.foldl (fun found y =>
    insert found ⟨x.needs ||| y.needs, x.work.plus y.work, x.rows.plus y.rows⟩) found) []

end Cost

end Motif.Database
