import Motif.Error

/-!
Cells of a database, and the ids they hold.
-/

set_option autoImplicit false

namespace Motif.Database

/-- What a cell holds. A real number is given by its 64 bits, a text and a blob by their bytes. -/
inductive Cell where
  | null
  | integer (value : Int)
  | real (bits : Nat)
  | text (bytes : List Nat)
  | blob (bytes : List Nat)
deriving DecidableEq

/-- What counts of a cell: an integer, or the storage class of what is none. -/
abbrev Held := Except Storage Int

def Cell.held : Cell → Held
  | .null => .error .null
  | .integer value => .ok value
  | .real _ => .error .real
  | .text _ => .error .text
  | .blob _ => .error .blob

def idIn (index : Nat) (name : String) : Held → Except Error Int
  | .error storage => .error (.wrongStorage storage index name)
  | .ok value =>
    if smallestId ≤ value ∧ value ≤ largestId then .ok value
    else .error (.idOutOfRange value index)

def sameName (a b : String) : Bool :=
  a.toList.map Char.toLower == b.toList.map Char.toLower

end Motif.Database
