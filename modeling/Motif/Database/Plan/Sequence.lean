import Motif.Database.Plan.Member

/-!
How far the rows of a join come in an order by themselves, if its tables are read step by step.
-/

set_option autoImplicit false

namespace Motif.Database

open Sql

/-- What is known of an order: which of its terms the rows are in order by, whether they come in order
as far as they differ, which steps have to go backwards, and which have to leave nulls for the
end. -/
structure Sequence where
  met : List Nat
  isClear : Bool
  clear : Tables
  backward : List Nat
  apart : List Nat

namespace Sequence

def start : Sequence := ⟨[], true, .none, [], []⟩

end Sequence

def Direction.isApart (d : Direction) : Bool := d.nullsFirst = some d.descending

namespace Wish

def isLoose (purpose : Purpose) : Bool :=
  match purpose with
  | .group _ | .distinct => true
  | _ => false

end Wish

namespace Joined

def trackOf (j : Joined) (s : Step) : Option Track :=
  match s.way with
  | .track i => (j.members[s.table]?).bind fun m => m.survey.tracks[i]?
  | _ => none

def settledBy? (j : Joined) (known : Tables) (bonds : Bond → Bool) (r : Read) : Option Clause :=
  let key : Track.Key := match r.place with
    | some place => .column place
    | none => .number
  (⟨r.table, key, bonds, none⟩ : Scan).best? (Analysis.allTables - known) j.clauses

/-- Whether a term has only one value while the tables in front of a step stay where they are. -/
def isSettled (j : Joined) (known : Tables) (bonds : Bond → Bool) (s : Step) (e : Meaning) : Bool :=
  match e.bare.column with
  | some r =>
    r.depth = 0 && r.table = s.table &&
      match j.settledBy? known bonds r with
      | none => false
      | some c =>
        if c.bond? = some .among ∧ !s.isUsing c then false
        else if c.isBy Bond.isEqual ∧ r.place.isSome then
          sameName (e.collation.getD "binary") c.collation
        else true
  | none => false

def stands (table : Nat) (part : Track.Part) (e : Meaning) : Bool :=
  isPart table e.bare part &&
    match part.key with
    | .number => true
    | _ => sameName (e.collation.getD "binary") part.collation

/-- What is known of the parts of a track one after the other: besides what is known of the order,
whether the track is gone backwards, and whether it leads to different rows. -/
structure Along where
  sequence : Sequence
  isBackward? : Option Bool
  leadsApart : Bool
  isDone : Bool

/-- Goes along one part of a track: it stands for the next term of the order that is not in order by
itself, or for any where only what is equal has to come together. -/
def goAlong (terms : List (Meaning × Direction)) (purpose : Purpose) (bonds : Bond → Bool)
    (size position : Nat) (s : Step) (a : Along) (i : Nat) (part : Track.Part) :
    Along :=
  if a.isDone then a
  else
    let q := a.sequence
    let use? : Option Clause := (s.uses[i]?).join
    let bond? := if i < s.equals ∧ s.skips ≤ i then use?.bind Clause.bond? else none
    if bond?.any bonds then
      let isLoose := bond? = some .isNull || bond? = some .same
      { a with sequence := { q with isClear := q.isClear && !isLoose } }
    else
      let isShared := bond?.isSome && ((s.uses.take s.equals).drop (i + 1)).any fun other =>
        other.any fun o => o.field ≠ 0 && use?.any fun u => u.field ≠ 0 && u.parent? = o.parent?
      let isLoose : Bool := match part.key with
        | .column _ => s.equals ≤ i && !part.isFilled
        | _ => false
      let q := { q with isClear := q.isClear && !isLoose }
      let rest := terms.zipIdx.filter fun (_, k) => !q.met.contains k
      let candidates :=
        if isShared then [] else if Wish.isLoose purpose then rest else rest.take 1
      let found? := candidates.find? fun ((e, _), _) => stands s.table part e
      let isGroup : Bool := match purpose with
        | .group _ => true
        | _ => false
      let turns (d : Direction) : Bool := part.descending != d.descending
      let met? := found?.filter fun ((_, d), _) =>
        (isGroup || a.isBackward?.all (· = turns d)) && (!d.isApart || i = s.equals)
      let backward? : Option Bool := a.isBackward?.or <|
        if isGroup then none else found?.map fun ((_, d), _) => turns d
      let q :=
        if backward? = some true ∧ a.isBackward?.isNone then
          { q with backward := q.backward ++ [position] }
        else q
      let q := match found? with
        | some ((_, d), _) =>
          if d.isApart ∧ i = s.equals ∧ (isGroup || a.isBackward?.all (· = turns d)) then
            { q with apart := q.apart ++ [position] }
          else q
        | none => q
      match met? with
      | some (_, k) =>
        let isNumber : Bool := match part.key with
          | .number => true
          | _ => false
        { a with
          sequence := { q with met := k :: q.met }, isBackward? := backward?,
          leadsApart := a.leadsApart || isNumber }
      | none =>
        { a with
          sequence := { q with isClear := q.isClear && !(i = 0 || i < size) },
          isBackward? := backward?, isDone := true }

def settleRest (terms : List (Meaning × Direction)) (s : Step) (q : Sequence) : Sequence :=
  if !q.isClear then q
  else
    let clear := q.clear ||| s.self
    let rest := (terms.zipIdx.filter fun ((e, _), k) =>
      !q.met.contains k && !(e.tables = 0 && !e.isConstant) && e.tables.within clear).map Prod.snd
    { q with clear, met := rest ++ q.met }

/-- How far rows are in order behind one more step; none if it is not known. -/
def goStep (j : Joined) (terms : List (Meaning × Direction)) (purpose : Purpose) (isBounded : Bool)
    (position : Nat) (known : Tables) (s : Step) (q : Sequence) : Option Sequence :=
  let isOpen : Bool := isBounded || purpose = .least || purpose = .greatest
  let bonds (b : Bond) : Bool := b.isEqual || b = .isNull || (isOpen && b = .among)
  let settled := (terms.zipIdx.filter fun ((e, _), k) =>
    !q.met.contains k && j.isSettled known bonds s e).map Prod.snd
  let q := { q with met := settled ++ q.met }
  if s.isSingle then some (settleRest terms s q)
  else
    let track? : Option (Track × Nat) :=
      match s.way with
      | .plain => ((j.members[s.table]?).map fun m => (m.survey.numbers, 0))
      | _ => ((j.trackOf s).filter fun t => !t.isUnordered).map fun t => (t, t.size)
    match track? with
    | none => none
    | some (t, size) =>
      let q := if s.way = .plain then q else { q with isClear := t.isUnique && s.skips = 0 }
      let along := t.parts.zipIdx.foldl (fun a (part, i) =>
        goAlong terms purpose bonds size position s a i part) ⟨q, none, false, false⟩
      let q := along.sequence
      let q := if along.leadsApart then { q with isClear := true } else q
      some (settleRest terms s q)

def goSteps (j : Joined) (terms : List (Meaning × Direction)) (purpose : Purpose)
    (isBounded : Bool) : Nat → Tables → List Step → Sequence → Option Sequence
  | _, _, [], q => some q
  | position, known, s :: rest, q =>
    if !q.isClear ∨ terms.length ≤ q.met.length then some q
    else if s.way = .module then some q
    else
      let skips := isBounded && !rest.isEmpty
      let found := if skips then some q else j.goStep terms purpose isBounded position known s q
      found.bind (goSteps j terms purpose isBounded (position + 1) (known ||| s.self) rest)

/-- How many terms of an order the rows of some steps are in, or none if more steps may tell; with
what has to be done for it. -/
def sequence (j : Joined) (terms : List (Meaning × Direction)) (purpose : Purpose)
    (isBounded : Bool) (steps : List Step) : Option Nat × Sequence :=
  if 63 < terms.length then (some 0, .start)
  else
    match j.goSteps terms purpose isBounded 0 .none steps .start with
    | none => (some 0, .start)
    | some q =>
      if terms.length ≤ q.met.length then (some terms.length, q)
      else if !q.isClear then
        let front := (List.range terms.length).takeWhile fun k => q.met.contains k
        (some front.length, q)
      else (none, q)

end Joined

end Motif.Database
