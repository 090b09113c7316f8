import Motif.Database.Plan.Route

/-!
Plans: the order in which the tables of a join are read, and the order in which the rows of each of
them are found.
-/

set_option autoImplicit false

namespace Motif.Database

/-- The order in which the rows of a table are found. -/
inductive Approach where
  | plain
  | track (place : Nat)
  | sorted (columns : List Nat)
  /-- For one alternative after the other, each row once: the conditions that are looked at, and where
  rows are found for them. -/
  | either (branches : List (List Meaning × Approach))

/-- A table of a plan. -/
structure Level where
  table : Nat
  access : Approach
  isBackward : Bool
  /-- Rows with a null in this come where they would not come by themselves. -/
  apart? : Option Track.Key
  uses : List Meaning

/-- A plan, with how far rows come in order, how many are expected, and whether none comes twice. -/
structure Plan where
  levels : List Level
  ordered : Nat
  isSorted : Bool
  isDistinct : Bool
  expected : Logarithm

namespace Joined

def branchTests (known : Tables) (clauses : List Clause) (c p : Clause) : List Test :=
  let isOther (o : Clause) : Bool :=
    o.path != c.path && !o.isMade && !o.isReplaced && !o.tables.within known &&
      (o.bond?.isSome || o.isEquivalence || o.joint ≠ .single)
  ⟨p.meaning, p.home?⟩ :: (clauses.filter isOther).map fun o => ⟨o.meaning, o.home?⟩

/-- The columns by which a track is ordered that is made for the purpose, behind those that are
tied. -/
def sortedColumns (j : Joined) (m : Member) (known : Tables) (table : Nat) : List Nat :=
  let tied := (sortedSteps m table j.clauses .none).filterMap fun s =>
    match (s.uses.head?).join.bind Clause.place? with
    | some (.column r) => if s.needs.within known then r.place else none
    | _ => none
  (m.columns.filter fun place => !tied.contains place).mergeSort

/-- How the rows of a table are found by a step, where some tables have been read before; goes down
as many levels as are given. What an alternative says of tables that are read behind it has to wait. -/
def access (g : Grounds) (j : Joined) (m : Member) (known : Tables) : Nat → Step → Approach
  | 0, _ => .plain
  | n + 1, s =>
    match s.way, (s.uses.head?).join with
    | .track i, _ => .track i
    | .sorted, _ => .sorted (j.sortedColumns m known s.table)
    | .either, some c =>
      let parts := c.parts.filter fun p =>
        p.joint = .both || p.place?.bind Place.table? = some s.table
      .either <| parts.map fun p =>
        let own := Clause.ofTests { g with before := known } (branchTests known j.clauses c p)
        let alone : Joined := ⟨j.members, own, ⟨[], .order, none, false⟩⟩
        let steps := alone.addSteps true [] m s.table .none
        let ready := p.meaning.conjuncts.filter fun e => e.tables.within (known ||| s.self)
        match alone.route? 1 steps none with
        | some r => (ready, (r.steps.head?.map (access g alone m known n)).getD .plain)
        | none => (ready, .plain)
    | _, _ => .plain

def origin (j : Joined) (c : Clause) : Meaning :=
  ((c.parent?.bind fun i => j.clauses[i]?).getD c).meaning

def levels (g : Grounds) (j : Joined) (q : Sequence) (steps : List Step) : List Level :=
  (steps.foldl (fun (found : List Level × Tables) s =>
    let position := found.1.length
    let apart? := if q.apart.contains position then
        ((j.trackOf s).bind fun t => t.parts[s.equals]?).map Track.Part.key
      else none
    let access? := (j.members[s.table]?).map fun m => access g j m found.2 Sql.Expr.mostLevels s
    let level : Level :=
      ⟨s.table, access?.getD .plain, q.backward.contains position, apart?,
        s.uses.reduceOption.map j.origin⟩
    (found.1 ++ [level], found.2 ||| s.self)) ([], .none)).1

/-- Whether no two rows of a join are the same in some expressions, as far as its tables tell. -/
def isRedundant (j : Joined) (results : List Meaning) : Bool :=
  match j.members with
  | [m] =>
    (results.any fun e => e.bare.column == some ⟨0, 0, none⟩) ||
      m.survey.tracks.any fun t =>
        t.isUnique && (t.parts.take t.size).all fun part =>
          ((scan m 0 part (· = .equal)).best? Analysis.allTables j.clauses).isSome ||
            (results.any (stands 0 part) && part.isFilled)
  | _ => false

/-- The step to the only row of a table that can pass. -/
def only? (j : Joined) : Option Step :=
  match j.members with
  | [m] =>
    if m.module?.isSome ∨ isBy m.use then none
    else
      let number := (scan m 0 ⟨.number, "binary", false, true⟩ Bond.isEqual).best? .none j.clauses
      let single (way : Way) (uses : List Clause) : Step :=
        { Step.ofWay 0 way .none with
          uses := uses.map some, equals := uses.length, isSingle := true, rows := 1 }
      match number with
      | some c => some (single .plain [c])
      | none =>
        m.survey.tracks.zipIdx.findSome? fun (t, i) =>
          if !t.isUnique ∨ t.isPartial ∨ 3 < t.size then none
          else
            let bonds (b : Bond) : Bool := b = .equal || (t.isFilled && b = .same)
            let found := (t.parts.take t.size).map fun part =>
              (scan m 0 part bonds).best? .none j.clauses
            if found.all Option.isSome then some (single (.track i) found.reduceOption) else none
  | _ => none
where
  isBy : TrackUse → Bool
    | .by _ => true
    | _ => false

/-- What has to be done for the order of a route, and how far it comes in order. -/
def settle (j : Joined) (r : Route) : Nat × Sequence :=
  let count := j.wish.terms.length
  let ordered := r.ordered?.getD 0
  let q := if j.wish.purpose = .distinct then { r.sequence with backward := [] } else r.sequence
  if j.wish.purpose = .distinct ∨ 0 < ordered then (ordered, q)
  else
    match r.steps.getLast? with
    | none => (ordered, q)
    | some s =>
      if s.isSingle ∨ (s.way = .plain ∧ s.hasValues) then (ordered, q)
      else
        match j.sequence j.wish.terms j.wish.purpose true r.steps with
        | (some found, bounded) => if found = count then (ordered, bounded) else (ordered, q)
        | (none, _) => (ordered, q)

/-- The plan of a join. Where the same rows are wanted once it is good to have them together. -/
def plan? (g : Grounds) (j : Joined) (results : List (Meaning × Direction)) : Option Plan := do
  let isRedundant := j.wish.isDistinct && j.isRedundant (results.map Prod.fst)
  let isGathering := j.wish.isDistinct && !isRedundant && j.wish.terms.isEmpty
  let wish := if isGathering then { j.wish with terms := results, purpose := .distinct } else j.wish
  let j := { j with wish }
  match j.only? with
  | some s =>
    return ⟨j.levels g .start [s], wish.terms.length, true, true, 1⟩
  | none =>
    let count := j.members.length
    let steps := j.steps
    let first ← j.route? count steps none
    let r ← if wish.terms.isEmpty then some first else j.route? count steps (some (first.rows + 1))
    let (ordered, q) := j.settle r
    let isWhole := ordered = wish.terms.length && 0 < count
    let resorted? :=
      if wish.purpose = .group true ∧ isWhole then some (j.sequence wish.terms .order false r.steps)
      else none
    match resorted? with
    | some (some found, q) =>
      if found = wish.terms.length then
        return ⟨j.levels g q r.steps, ordered, true, isRedundant, r.rows⟩
    | _ => pure ()
    return ⟨j.levels g q r.steps, ordered, false, isRedundant, r.rows⟩

end Joined

end Motif.Database
