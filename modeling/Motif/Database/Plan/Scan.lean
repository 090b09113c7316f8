import Motif.Database.Plan.Analysis

/-!
Finding the clauses that tie a part of what rows are ordered by. A column that always has the same
value as another is tied by what ties that.
-/

set_option autoImplicit false

namespace Motif.Database

open Sql

/-- What clauses are looked for: those that tie some place in some ways, and may be used in an order
of values. -/
structure Scan where
  table : Nat
  key : Track.Key
  bonds : Bond → Bool
  /-- The affinity of the values in order, and how their texts are compared. -/
  order? : Option (Option Affinity × String)

namespace Scan

def column? (s : Scan) : Option Read :=
  match s.key with
  | .number => some ⟨0, s.table, none⟩
  | .column place => some ⟨0, s.table, some place⟩
  | .expression _ => none

def ties (s : Scan) (same? : Option Read) (c : Clause) : Bool :=
  match same?, s.key with
  | some r, _ => c.place? == some (.column r)
  | none, .expression e =>
    c.place? == some (.expression s.table) &&
      c.left?.any fun left => left.bare.difference e.bare == .none
  | none, _ => false

def other? (c : Clause) : Option Read :=
  if c.isEquivalence then (c.right?.map Meaning.bare).bind Meaning.column else none

def fits (s : Scan) (c : Clause) : Bool :=
  match s.order? with
  | some (affinity?, collation) =>
    c.bond? = some .isNull || (c.fits (affinity?.getD .blob) && sameName c.collation collation)
  | none => true

def isIdle (s : Scan) (c : Clause) : Bool :=
  c.isBy Bond.isEqual && s.column?.isSome && (c.right?.bind Meaning.place?) == s.column?

def isFound (s : Scan) (c : Clause) : Bool := c.isBy s.bonds && s.fits c && !s.isIdle c

def mostColumns : Nat := 11

/-- Looks for clauses along the columns that have the same value, and tells of each whether it is
one of another column. -/
def follow (s : Scan) (cs : List Clause) : Nat → Nat → List (Option Read) → List (Clause × Bool)
  | 0, _, _ => []
  | n + 1, i, columns =>
    match columns[i]? with
    | none => []
    | some column? =>
      let tied := cs.filter fun c => s.ties column? c && (i = 0 || c.home?.isNone)
      let columns := tied.foldl (fun (columns : List (Option Read)) c =>
        match other? c with
        | some r =>
          if columns.length < mostColumns ∧ !columns.contains (some r) then columns ++ [some r]
          else columns
        | none => columns) columns
      (tied.filter s.isFound).map (fun c => (c, i != 0)) ++ follow s cs n (i + 1) columns

def found (s : Scan) (cs : List Clause) : List (Clause × Bool) :=
  s.follow cs mostColumns 0 [s.column?]

def best? (s : Scan) (unknown : Tables) (cs : List Clause) : Option Clause :=
  let found := (s.found cs).map Prod.fst |>.filter fun c => !c.right.meets unknown
  (found.find? fun c => c.right = 0 && c.isBy fun b => s.bonds b && b.isEqual).or found.head?

end Scan

end Motif.Database
