import Motif.Database.Plan.Implication
import Motif.Database.Plan.Step

/-!
The tables of a join as they are known before any of them is read, and the ways in which they can be
read.
-/

set_option autoImplicit false

namespace Motif.Database

open Sql

/-- A table of a join. -/
structure Member where
  survey : Survey
  /-- Its rows are those of a query. -/
  isQuery : Bool
  /-- Its rows may be put in another order. -/
  isSteady : Bool
  module? : Option (Logarithm × Logarithm)
  needs : Tables
  keepsLeft : Bool
  isFixed : Bool
  use : TrackUse
  columns : List Nat
  affinities : List (Option Affinity)

/-- What the rows of a join are to be put together for. -/
inductive Purpose where
  | order
  /-- What is equal has to come together; it may be that the order counts as well. -/
  | group (isSorted : Bool)
  | distinct
  | least
  | greatest
deriving DecidableEq

/-- The order that the rows of a join are wanted in. -/
structure Wish where
  terms : List (Meaning × Direction)
  purpose : Purpose
  limit? : Option Logarithm
  /-- Rows that are the same are wanted once. -/
  isDistinct : Bool

/-- A join, with its conditions and the order that is wanted. -/
structure Joined where
  members : List Member
  clauses : List Clause
  wish : Wish

def Survey.numbers (s : Survey) : Track :=
  { name := "", parts := [⟨.number, "binary", false, true⟩], size := 1, isUnique := true,
    isFilled := false, conditions := [], isPrimary := false, covers := fun _ => true,
    counts := [s.rows, 0], width := s.width, isNoted := false, isUnordered := false, isWhole := true }

namespace Joined

def affinityOf (m : Member) : Track.Key → Option (Option Affinity)
  | .number => none
  | .column place => some ((m.affinities[place]?).join)
  | .expression e => some e.affinity

def scan (m : Member) (table : Nat) (part : Track.Part) (bonds : Bond → Bool) : Scan :=
  ⟨table, part.key, bonds, (affinityOf m part.key).map fun affinity => (affinity, part.collation)⟩

def isPart (table : Nat) (e : Meaning) (part : Track.Part) : Bool :=
  match part.key with
  | .number => e.column == some ⟨0, table, none⟩
  | .column place => e.column == some ⟨0, table, some place⟩
  | .expression x => e.difference x.bare == .none

def mayHelp (j : Joined) (table : Nat) (t : Track) : Bool :=
  !t.isUnordered && j.wish.terms.any fun (e, _) =>
    let e := e.bare
    e.column == some ⟨0, table, none⟩ || (t.parts.take t.size).any (isPart table e)

/-- Leaves out the rows that are expected not to pass the conditions that do not lead to them. -/
def thin (own : List Clause) (most : Logarithm) (s : Step) : Step :=
  let known := s.needs ||| s.self
  let counted := (own.takeWhile fun c => !c.isMade).zipIdx.filter fun (c, place) =>
    c.tables.meets s.self && c.tables.within known && !s.isCounted place c
  let (rows, fewer) := counted.foldl (fun (rows, (fewer : Logarithm)) (c, _) =>
    match c.odds? with
    | some odds => (rows + odds, fewer)
    | none =>
      let isCommon := (c.right?.bind Meaning.smallInteger?).any fun n => -1 ≤ n && n ≤ 1
      let own : Logarithm := if !c.isBy Bond.isEqual then 0 else if isCommon then 10 else 20
      (rows - 1, max fewer own)) (s.rows, 0)
  { s with rows := min rows (most - fewer) }

def between (rows : Logarithm) (low? high? : Option Clause) : Logarithm :=
  let narrow (rows : Logarithm) (c : Clause) : Logarithm :=
    match c.odds? with
    | some odds => rows + odds
    | none => if c.isFilled then rows else rows - 20
  let ends := low?.toList ++ high?.toList
  let few := ends.foldl narrow rows
  let few := if ends.length = 2 ∧ ends.all fun c => c.odds?.isNone then few - 20 else few
  min (rows - ends.length) (max 10 few)

def repeats (s : Step) (c : Clause) : Logarithm :=
  match c.bond?, c.meaning.operation with
  | some .among, .among => logarithm (c.meaning.parts.length - 1)
  | some .among, _ =>
    let isSame (u : Clause) : Bool := u.field ≠ 0 && c.field ≠ 0 && u.parent? = c.parent?
    if s.uses.any fun use => use.any isSame then 0 else 46
  | _, _ => 0

/-- Where the rows of a table are looked for: a track of it, the clauses of the part of a condition
that is looked at, and all that may lead to rows. -/
structure Probe where
  member : Member
  table : Nat
  track : Track
  way : Way
  own : List Clause
  all : List Clause

namespace Probe

def log (p : Probe) : Logarithm := (p.track.count 0).halvings

def mayUse (p : Probe) (part : Track.Part) (c : Clause) : Bool :=
  !((c.bond? = some .isNull || c.isFilled) && part.isFilled) &&
    !c.right.meets (.only p.table) && !(c.isBeginning && c.bond? = some .less) &&
    !(p.member.keepsLeft && c.home?.isNone)

def isWorse (p : Probe) (s : Step) (times before : Logarithm) : Bool :=
  let gain := p.track.count s.equals + times.halvings + 10 - (times + p.log)
  p.track.isNoted && 10 ≤ p.log && gain < 0 && 2 ≤ before

def isSingle (p : Probe) (part : Track.Part) (s : Step) (c : Clause) (before : Logarithm) : Bool :=
  match part.key with
  | .number => true
  | .column _ =>
    before = 0 && s.equals + 1 = p.track.size &&
      (p.track.isFilled ||
        (p.track.size = 1 && p.track.isUnique && c.bond? = some .equal && !c.isEquivalence))
  | .expression _ => false

/-- The way of reading with one more clause, and how many rows are read each time. -/
def use (p : Probe) (part : Track.Part) (s : Step) (c : Clause) (bond : Bond)
    (before times : Logarithm) : Step :=
  let s' := { s with uses := s.uses ++ [some c], needs := s.needs ||| c.right }
  let last? : Option Clause := s.uses.getLast?.bind id
  if bond.isLow then
    let next? := p.all.find? fun o => o.path.dropLast = c.path.dropLast ∧
      o.path.getLast? = c.path.getLast?.map (· + 1)
    let high? := if c.isBeginning then next? else none
    { s' with
      uses := s'.uses ++ (high?.map some).toList, hasLow := true, hasHigh := high?.isSome,
      rows := between s.rows (some c) high? }
  else if bond.isHigh then
    { s' with
      hasHigh := true, rows := between s.rows (if s.hasLow then last? else none) (some c) }
  else
    let isColumn : Bool := match part.key with
      | .column _ => true
      | _ => false
    let fewer := p.track.count (s.equals + 1) - p.track.count s.equals
    let rows := match c.odds? with
      | some odds => if isColumn then s.rows + odds - times else s.rows + fewer
      | none => s.rows + fewer
    let rows := if bond = .isNull ∧ !(isColumn && c.odds?.isSome) then rows + 10 else rows
    { s' with
      equals := s.equals + 1, rows,
      hasValue := s.hasValue || bond.isEqual, hasValues := s.hasValues || bond = .among,
      isSingle := s.isSingle || (bond.isEqual && p.isSingle part s c before) }

def price (p : Probe) (times : Logarithm) (s : Step) : Step :=
  let along := s.rows + 1 + 15 * p.track.width / p.member.survey.width
  let work := p.log.plus along
  let work := if s.isCovering ∨ p.way = .plain then work else work.plus (s.rows + 16)
  thin p.own (p.track.count 0) { s with work := work + times, rows := s.rows + times }

/-- The ways of reading along a track that begin in one way. -/
def seek (p : Probe) : Nat → Step → Logarithm → List Step
  | 0, _, _ => []
  | n + 1, s, before =>
    match p.track.parts[s.equals]? with
    | none => []
    | some part =>
      let bonds (b : Bond) : Bool :=
        (if s.hasLow then b.isHigh else true) && !(p.track.isUnordered && (b.isLow || b.isHigh))
      let found := ((scan p.member p.table part bonds).found p.all).flatMap fun (c, _) =>
        match c.bond? with
        | none => []
        | some bond =>
          let times := repeats s c
          if !p.mayUse part c ∨ (bond = .among ∧ p.isWorse s times before) then []
          else
            let next := p.use part s c bond before times
            let goesOn := !next.hasHigh && next.equals < p.track.parts.length &&
              (next.equals < p.track.size || !p.track.isPrimary)
            let further := if next.hasRange then { next with rows := s.rows } else next
            p.price (before + times) next ::
              if goesOn then seek p n further (before + times) else []
      let isAtFront := s.equals = s.skips && s.equals + 1 < p.track.size &&
        s.equals = s.uses.length
      let skipped :=
        if isAtFront ∧ !p.track.isWhole ∧ p.track.isNoted ∧ 42 ≤ p.track.count (s.equals + 1) then
          let values := p.track.count s.equals - p.track.count (s.equals + 1)
          let next := { s with
            equals := s.equals + 1, skips := s.skips + 1, uses := s.uses ++ [none],
            rows := s.rows - values }
          seek p n next (values + 5 + before)
        else []
      found ++ skipped

end Probe

def isUsable (m : Member) (table : Nat) (own : List Clause) (t : Track) : Bool :=
  t.conditions.all fun goal => own.any fun c =>
    (c.home?.all (· = table)) && (!m.keepsLeft || c.home?.isSome) && !c.isFilled &&
      c.meaning.implies goal

def isOn (table : Nat) (t : Track) (e : Meaning) : Bool :=
  e.reads.all fun r =>
    r.depth ≠ 0 || r.table ≠ table || t.parts.any fun part =>
      match part.key, r.place with
      | .number, none => true
      | .column place, some other => place == other
      | _, _ => false

def lookups (table : Nat) (t : Track) (all : List Clause) : Logarithm :=
  (all.takeWhile fun c => isOn table t c.meaning).foldl (fun n c =>
    match c.odds? with
    | some odds => n + odds
    | none => if c.isBy Bond.isEqual then n - 20 else n - 1) (t.count 0 + 16)

/-- The ways of reading a table by a track that is made for the purpose. -/
def sortedSteps (m : Member) (table : Nat) (own : List Clause) (needs : Tables) : List Step :=
  if m.use ≠ .free ∨ !m.survey.isNumbered ∨ !m.isSteady then []
  else
    let log := m.survey.rows.halvings
    let mayDrive (c : Clause) : Bool :=
      match c.place? with
      | some (.column ⟨0, t, some place⟩) =>
        t = table && c.isBy Bond.isEqual && !c.right.meets (.only table) &&
          !(m.keepsLeft && c.home?.isNone && c.bond? = some .same) &&
          c.fits (((m.affinities[place]?).join).getD .blob)
      | _ => false
    (own.filter mayDrive).map fun c =>
      let setup := log + m.survey.rows + if m.isQuery then -10 else 28
      { Step.ofWay table .sorted (needs ||| c.right) with
        uses := [some c], equals := 1, setup := max 0 setup, work := log.plus 43, rows := 43 }

def tracksOf (m : Member) : List (Way × Track) :=
  let tracks := m.survey.tracks.zipIdx.map fun (t, i) => (Way.track i, t)
  let plain := if m.survey.isNumbered then [(Way.plain, m.survey.numbers)] else []
  match m.use with
  | .by i => tracks.filter fun t => t.1 = .track i
  | .never => if m.survey.isNumbered then plain else tracks
  | .free => plain ++ tracks

/-- The ways of reading a table along its tracks. Those of a part of a condition are led to by its
own clauses, but by others as well. -/
def trackSteps (j : Joined) (m : Member) (table : Nat) (own all : List Clause) (needs : Tables) :
    List Step :=
  let main := j.clauses
  let usable := (tracksOf m).zipIdx.filter fun ((_, t), _) => isUsable m table own t
  usable.flatMap fun ((way, t), i) =>
    let isHelpful := j.mayHelp table t
    let isCovering := way = .plain || t.isPrimary || t.covers m.columns
    let s := { Step.ofWay table way needs with rows := t.count 0, isCovering }
    let order := if isHelpful then i + 1 else 0
    let scans :=
      if way = .plain then
        let work := t.count 0 + if m.survey.hasSamples then 14 else 16
        [thin own (t.count 0) { s with work, order }]
      else
        let isNarrow := isCovering && !t.isUnordered && t.width < m.survey.width
        if isHelpful ∨ !m.survey.isNumbered ∨ t.isPartial ∨ m.use ≠ .free ∨ isNarrow then
          let along := t.count 0 + 1 + 15 * t.width / m.survey.width
          let work := if isCovering then along else along.plus (lookups table t main)
          [thin own (t.count 0) { s with work, order }]
        else []
    let p : Probe := ⟨m, table, t, way, own, all⟩
    scans ++ p.seek (t.parts.length + 2) { s with order } 0

/-- What it costs to read a table by one part of a condition after the other; goes down as many
levels as are given. -/
def eitherCosts (j : Joined) (m : Member) (table : Nat) (needs : Tables) (others : List Step) :
    Nat → List Clause → List Clause → List (Clause × Cost)
  | 0, _, _ => []
  | n + 1, own, outer =>
    own.flatMap fun c =>
      match c.joint with
      | .either tied =>
        if !tied.isIn table then []
        else
          let parts := c.parts.filterMap fun p =>
            if p.joint = .both then some p.parts
            else if p.place?.bind Place.table? = some table then some [p]
            else none
          let costs := parts.map fun inner =>
            let all := inner ++ own ++ outer
            let steps := (trackSteps j m table inner all needs).filter fun s => !s.uses.isEmpty
            let adjusted := steps.map (Step.adjust others)
            let plain := adjusted.map fun s => (⟨s.needs, s.work, s.rows⟩ : Cost)
            let nested := eitherCosts j m table needs others n inner (own ++ outer)
            (plain ++ nested.map Prod.snd).foldl Cost.insert []
          let sum :=
            match costs with
            | [] => []
            | first :: rest =>
              if costs.any List.isEmpty then [] else rest.foldl Cost.both first
          sum.map fun cost => (c, { cost with work := cost.work + 1 })
      | _ => []

/-- All ways of reading a table, among those of the tables in front of it. For a part of a condition
no track is made. -/
def addSteps (j : Joined) (isPart : Bool) (steps : List Step) (m : Member) (table : Nat)
    (needs : Tables) : List Step :=
  match m.module? with
  | some (work, rows) =>
    Step.insert steps { Step.ofWay table .module (needs ||| m.needs) with work, rows }
  | none =>
    let sorted := if isPart then [] else sortedSteps m table j.clauses needs
    let steps := (sorted ++ trackSteps j m table j.clauses j.clauses needs).foldl Step.insert steps
    let either := eitherCosts j m table needs steps Expr.mostLevels j.clauses []
    (either.map fun (c, cost) =>
      { Step.ofWay table .either cost.needs with
        uses := [some c], work := cost.work, rows := cost.rows }).foldl Step.insert steps

def steps (j : Joined) : List Step :=
  j.members.zipIdx.foldl (fun steps (m, table) =>
    j.addSteps false steps m table (if m.keepsLeft ∨ m.isFixed then Tables.before table else .none)) []

end Joined

end Motif.Database
