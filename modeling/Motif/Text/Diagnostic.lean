/-!
Messages that point at a place in a text: the line, the column, the line itself and a mark under
the place.
-/

set_option autoImplicit false

namespace Motif.Text

/-- What is wrong at a place of an edge list. -/
inductive Complaint where
  | expectedInteger
  | expectedEnd
  | expectedEndOrInteger
  | idOutOfRange
deriving DecidableEq

def Complaint.message : Complaint → String
  | .expectedInteger => "expected int"
  | .expectedEnd => "expected EOI"
  | .expectedEndOrInteger => "expected EOI or int"
  | .idOutOfRange => "vertex id out of range"

/-- A place of a text: a position between characters, or the characters of a lexeme. -/
inductive Extent where
  | point
  | span (length : Nat)
deriving DecidableEq

/-- A complaint with the place it is about, ready to be shown. -/
structure Diagnostic where
  line : Nat
  column : Nat
  excerpt : List Char
  extent : Extent
  complaint : Complaint
deriving DecidableEq

/-- The mark under a place: an arrow for a position, a bar with a tick at both ends for a
lexeme. -/
def Extent.mark : Extent → List Char
  | .point => ['^', '-', '-', '-']
  | .span length =>
    '^' :: if 1 < length then List.replicate (length - 2) '-' ++ ['^'] else []

/-- Blanks as wide as the first characters of a line; a tab stays a tab, so that the mark stands
under its place however wide tabs are shown. -/
def indent (excerpt : List Char) (width : Nat) : List Char :=
  (excerpt.take width).map fun c => if c = '\t' then '\t' else ' '

/-- Six lines: the place, and the line between empty margins with the mark below it. -/
def Diagnostic.message (d : Diagnostic) : String :=
  let number := toString d.line
  let margin := String.ofList (List.replicate number.length ' ')
  let excerpt := String.ofList d.excerpt
  let mark := String.ofList (indent d.excerpt (d.column - 1) ++ d.extent.mark)
  "\n".intercalate
    [s!"{margin}--> {number}:{d.column}",
     s!"{margin} |",
     s!"{number} | {excerpt}",
     s!"{margin} | {mark}",
     s!"{margin} |",
     s!"{margin} = {d.complaint.message}"]

/-- A line end is shown by its control picture where a complaint points at it, and is left out
elsewhere. -/
def visibleEnd (shown : Bool) (c : Char) : Option Char :=
  if c = '\n' then if shown then some '␊' else none
  else if c = '\r' then if shown then some '␍' else none
  else some c

/-- The place after the characters `before` of a text that goes on with `after`. Lines end at a
line feed only; a carriage return is a character of its line. -/
def Diagnostic.locate (before after : List Char) (extent : Extent) (complaint : Complaint) :
    Diagnostic :=
  let start := (before.reverse.takeWhile (· ≠ '\n')).reverse
  let rest := after.takeWhile (· ≠ '\n') ++ (after.dropWhile (· ≠ '\n')).take 1
  let atEnd := after.head? = some '\n' ∨ after.head? = some '\r'
  { line := before.count '\n' + 1
    column := start.length + 1
    excerpt := (start ++ rest).filterMap (visibleEnd (decide (extent = .point ∧ atEnd)))
    extent := extent
    complaint := complaint }

end Motif.Text
