import Motif.Database.Logarithm
import Motif.Database.Meaning.Difference
import Motif.Database.Meaning.Exchange

/-!
Tracks: orders in which the file keeps the rows of a table, and what is known of them before any row
is read.
-/

set_option autoImplicit false

namespace Motif.Database

open Sql

/-- What rows are ordered by: their numbers, a column, or an expression of the first table of the
innermost query. -/
inductive Track.Key where
  | number
  | column (place : Nat)
  | expression (e : Meaning)

structure Track.Part where
  key : Key
  collation : String
  descending : Bool
  /-- It is never null. -/
  isFilled : Bool

/-- An order of rows. Behind the parts that are its own come those by which a row is found. -/
structure Track where
  name : String
  parts : List Track.Part
  size : Nat
  /-- No two rows are the same in its own parts. -/
  isUnique : Bool
  /-- Nor are they if they have nulls, as none has. -/
  isFilled : Bool
  conditions : List Meaning
  /-- The rows themselves are kept in this order. -/
  isPrimary : Bool
  /-- Whether some columns can be read on it. -/
  covers : List Nat → Bool
  /-- How many rows there are, how many of them are the same in the first part, and so on. -/
  counts : List Logarithm
  width : Logarithm
  isNoted : Bool
  isUnordered : Bool
  /-- No part at the front is to be skipped. -/
  isWhole : Bool

namespace Track

def count (t : Track) (parts : Nat) : Logarithm := t.counts[parts]?.getD 0

def isPartial (t : Track) : Bool := !t.conditions.isEmpty

end Track

/-- What is known of a table: how many rows it has, how large they are, and the tracks that they are
on besides that of their numbers. -/
structure Survey where
  /-- Rows have numbers. -/
  isNumbered : Bool
  rows : Logarithm
  width : Logarithm
  /-- Some rows are known. -/
  hasSamples : Bool
  tracks : List Track

/-- A table in a file. Its rows are read in the order of a track, or in that of the table itself. -/
structure Stored where
  survey : Survey
  read : Option Track → List Nat → Flow Row
  key : List Nat

namespace Stored

def identity (t : Stored) (row : Row) : Except Error (List Cell) :=
  if t.survey.isNumbered then do return [← row.number] else t.key.mapM row.cell

end Stored

end Motif.Database
