import Motif.EdgeList.Scan
import Motif.Graph.Basic

/-!
Edge lists as text. The whole text is scanned before any id is checked, so a broken line is
reported even if an id before it is out of range.
-/

set_option autoImplicit false

namespace Motif.EdgeList

open Text

/-- Points at a place of a text, given by the text from there on. -/
def pointAt (text place : List Char) (extent : Extent) (complaint : Complaint) : Error :=
  .malformed (.locate (text.take (text.length - place.length)) place extent complaint)

/-- The id that a numeral of the text writes. -/
def Numeral.id (text : List Char) (n : Numeral) : Except Error Int :=
  if smallestId ≤ n.value ∧ n.value ≤ largestId then .ok n.value
  else .error (pointAt text n.place (.span n.lexeme.length) .idOutOfRange)

def Entry.edge (text : List Char) (e : Entry) : Except Error Edge := do
  let src ← e.src.id text
  let dst ← e.dst.id text
  return (src, dst)

/-- The edges of a text, line by line. -/
def parse (text : List Char) : Except Error (List Edge) :=
  match scan text with
  | .error misfit => .error (pointAt text misfit.place .point misfit.complaint)
  | .ok entries => entries.mapM (Entry.edge text)

def ofString (text : String) : Except Error (List Edge) := parse text.toList

/-- The edges of a text given by its bytes. -/
def ofBytes (bytes : List Nat) : Except Error (List Edge) :=
  match Utf8.decode bytes with
  | .ok text => parse text
  | .error cause => .error (.encoding cause)

end Motif.EdgeList
