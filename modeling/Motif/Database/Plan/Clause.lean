import Motif.Database.Relation

/-!
Clauses: the conditions on the rows of a join one by one, with what they tell of a column or of an
expression of one table.
-/

set_option autoImplicit false

namespace Motif.Database

open Sql

/-- A set of tables of a join: bit after bit tells whether a table is in it. -/
abbrev Tables := Nat

namespace Tables

def none : Tables := 0

def only (table : Nat) : Tables := 1 <<< table

def isIn (table : Nat) (tables : Tables) : Bool := tables.testBit table

def within (a b : Tables) : Bool := a &&& b == a

def meets (a b : Tables) : Bool := a &&& b != 0

def before (table : Nat) : Tables := (1 <<< table) - 1

def single? (tables : Tables) : Option Nat :=
  if tables ≠ 0 ∧ tables = 1 <<< tables.log2 then some tables.log2 else .none

end Tables

def Read.tables (reads : List Read) : Tables :=
  reads.foldl (fun found r => if r.depth = 0 then found ||| .only r.table else found) .none

namespace Meaning

def tables (e : Meaning) : Tables := Read.tables e.reads

def uncollated : Meaning → Meaning
  | e@⟨operation, part :: _, _, _, _, _, _, _, _, _, _⟩ =>
    match operation with
    | .collate _ => uncollated part
    | _ => e
  | e => e

def place? (e : Meaning) : Option Read :=
  match e.operation with
  | .column r | .known r => some r
  | _ => none

def fields? (e : Meaning) : Option (List Meaning) :=
  match e.operation with
  | .row => some e.parts
  | _ => none

def lead (e : Meaning) : Meaning := (e.fields?.bind List.head?).getD e

def smallInteger? : Meaning → Option Int
  | ⟨operation, parts, _, _, _, _, _, _, _, _, _⟩ =>
    match operation, parts with
    | .literal (.integer digits), _ => (Literal.number.small? digits.toList).map Int.ofNat
    | .positive, [e] => smallInteger? e
    | .negative, [e] => (smallInteger? e).map (-·)
    | _, _ => none

def isConstant (e : Meaning) : Bool := e.reads.isEmpty && !e.hasQuery && !e.hasAggregate

end Meaning

/-- How a clause ties its left side. -/
inductive Bond where
  | among
  | equal
  | less
  | atMost
  | greater
  | atLeast
  | same
  | isNull
deriving DecidableEq

namespace Bond

def ofComparison : Comparison → Option Bond
  | .equal => some .equal
  | .less => some .less
  | .atMost => some .atMost
  | .greater => some .greater
  | .atLeast => some .atLeast
  | .same => some .same
  | .different | .distinct => none

def isEqual (b : Bond) : Bool := b = .equal || b = .same

def isLow (b : Bond) : Bool := b = .greater || b = .atLeast

def isHigh (b : Bond) : Bool := b = .less || b = .atMost

end Bond

/-- What is tied by a clause: a column, or some expression of one table. -/
inductive Place where
  | column (r : Read)
  | expression (table : Nat)
deriving DecidableEq

namespace Place

def table? : Place → Option Nat
  | .column r => if r.depth = 0 then some r.table else none
  | .expression table => some table

def tables (p : Place) : Tables := (p.table?.map Tables.only).getD .none

end Place

/-- How a clause is made of others. -/
inductive Joint where
  | single
  | both
  /-- One of them has to hold; each of them ties something of these tables. -/
  | either (tied : Tables)
deriving DecidableEq

/-- A clause. Those that are made of others only help to find rows. -/
structure Clause where
  path : List Nat
  meaning : Meaning
  home? : Option Nat
  place? : Option Place
  bond? : Option Bond
  /-- Two columns have the same value. -/
  isEquivalence : Bool
  right : Tables
  tables : Tables
  odds? : Option Logarithm
  isMade : Bool
  /-- There is another clause that says the same. -/
  isCopied : Bool
  /-- Other clauses take its place. -/
  isReplaced : Bool
  /-- It only leaves out null. -/
  isFilled : Bool
  /-- It is an end of the range in which texts have a beginning. -/
  isBeginning : Bool
  parent? : Option Nat
  field : Nat
  joint : Joint
  parts : List Clause

namespace Clause

def left? (c : Clause) : Option Meaning :=
  match c.meaning.operation with
  | .amongRows .. => if c.field = 0 then some (.row c.meaning.parts) else c.meaning.parts[c.field - 1]?
  | _ => c.meaning.parts.head?

def right? (c : Clause) : Option Meaning :=
  match c.meaning.operation with
  | .compare .. => c.meaning.parts[1]?
  | _ => none

/-- The name of the way in which the sides are compared; of several values the first ones tell. -/
def collation (c : Clause) : String :=
  let left? := c.meaning.parts.head?.map Meaning.lead
  let right? := c.right?.map Meaning.lead
  let name? :=
    match c.meaning.operation, left?, right? with
    | .compare _ true, some a, some b => Meaning.jointCollation b a
    | _, some a, some b => Meaning.jointCollation a b
    | _, some a, none => a.collation
    | _, none, _ => none
  name?.getD "binary"

def affinity (c : Clause) : Affinity :=
  let own := c.meaning.parts.head?.bind fun e => e.lead.affinity
  match c.meaning.operation with
  | .compare .. => Meaning.jointAffinity own (c.right?.bind fun e => e.lead.affinity)
  | .amongRows affinities _ => Meaning.jointAffinity own (affinities.head?.bind id)
  | .exists affinity => Meaning.jointAffinity own affinity
  | _ => own.getD .blob

def fits (c : Clause) (order : Affinity) : Bool :=
  match c.affinity with
  | .blob => true
  | .text => order = .text
  | _ => order.isNumeric

def isBy (c : Clause) (p : Bond → Bool) : Bool := c.bond?.any p

end Clause

end Motif.Database
