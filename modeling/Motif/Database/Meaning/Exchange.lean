import Motif.Database.Meaning

/-!
Expressions among other rows than those that they were made for: what is read is read elsewhere, or
something else takes its place.
-/

set_option autoImplicit false

namespace Motif.Database

/-- How an expression is carried over: what its moment looks like to it, and what takes the place of
the columns that it reads, if they are not just to be found elsewhere. -/
structure Exchange where
  moment : Moment → Moment
  place : Read → Read
  column? : Read → Option Meaning

namespace Exchange

def reads (x : Exchange) (r : Read) : List Read :=
  match x.column? r with
  | some e => e.reads
  | none => [x.place r]

/-- What takes the place of a column. It is compared in the same way, but not because that is asked
for. -/
def column (x : Exchange) (e : Meaning) (r : Read) : Meaning :=
  match x.column? r with
  | some found =>
    { found with affinity := e.affinity, collation := e.collation, isExplicit := false }
  | none => .ofRead (x.place r) e.affinity e.collation

def operation (x : Exchange) : Operation → Operation
  | .known r => .known (x.place r)
  | .amongRows affinities reads => .amongRows affinities (reads.flatMap x.reads)
  | operation => operation

end Exchange

namespace Meaning

mutual

def exchange (x : Exchange) : Meaning → Meaning
  | e@⟨operation, parts, value, isTruly, affinity, collation, isExplicit, reads, hasAggregate,
      passes, givesTree⟩ =>
    match operation with
    | .column r => x.column e r
    | _ =>
      ⟨x.operation operation, exchangeAll x parts, fun m => value (x.moment m),
        fun wanted m => isTruly wanted (x.moment m), affinity, collation, isExplicit,
        reads.flatMap x.reads, hasAggregate, passes, givesTree⟩

def exchangeAll (x : Exchange) : List Meaning → List Meaning
  | [] => []
  | e :: rest => exchange x e :: exchangeAll x rest

end

def inward (depth : Nat) (e : Meaning) : Meaning :=
  e.exchange ⟨fun m => { m with rows := m.rows.drop depth },
    fun r => { r with depth := r.depth + depth }, fun _ => none⟩

def outward (e : Meaning) : Meaning :=
  e.exchange ⟨fun m => { m with rows := [] :: m.rows },
    fun r => { r with depth := r.depth - 1 }, fun _ => none⟩

def renumber (table : Nat → Nat) (rows : List Row → List Row) (e : Meaning) : Meaning :=
  e.exchange ⟨Moment.mapRows fun own _ => rows own,
    fun r => if r.depth = 0 then { r with table := table r.table } else r, fun _ => none⟩

def behind (tables : Nat) (e : Meaning) : Meaning :=
  e.renumber (· + tables) (List.drop tables)

end Meaning

end Motif.Database
