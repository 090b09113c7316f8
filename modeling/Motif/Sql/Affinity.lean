import Motif.Sql.Token

/-!
What a declared type makes of a column: what kind of values it prefers, and how large they may be.
-/

set_option autoImplicit false

namespace Motif.Sql

inductive Affinity where
  | blob
  | text
  | numeric
  | integer
  | real
deriving DecidableEq

namespace Affinity

def isNumeric : Affinity → Bool
  | .numeric | .integer | .real => true
  | .blob | .text => false

/-- What the letters of a type have told so far. The last four letters are kept, and what follows
the last mention of something that has a size. -/
structure Reading where
  affinity : Affinity
  last : List Char
  sized : Option (List Char)

/-- Types are known by syllables of their names: `int` decides at once, the words for texts beat
those for blobs, and these beat those for reals. -/
def read : Reading → List Char → Reading
  | r, [] => r
  | r, c :: rest =>
    let last := (r.last ++ [c.toLower]).drop (r.last.length + 1 - 4)
    let r := { r with last }
    let word := String.ofList last
    if word.endsWith "int" then { r with affinity := .integer }
    else if word = "char" then read { r with affinity := .text, sized := some rest } rest
    else if word = "clob" ∨ word = "text" then read { r with affinity := .text } rest
    else if word = "blob" ∧ (r.affinity = .numeric ∨ r.affinity = .real) then
      let sized := if rest.head? = some '(' then some rest else r.sized
      read { r with affinity := .blob, sized } rest
    else if ["real", "floa", "doub"].contains word ∧ r.affinity = .numeric then
      read { r with affinity := .real } rest
    else read r rest

def reading (type : String) : Reading := read ⟨.numeric, [], none⟩ type.toList

def named (type : String) : Affinity := (reading type).affinity

def ofType (type : String) : Affinity := if type.isEmpty then .blob else named type

def smallNumber? (cs : List Char) : Option Nat :=
  let n := (cs.takeWhile Char.isDigit).foldl (fun n c => 10 * n + (c.toNat - '0'.toNat)) 0
  if cs.headD ' ' |>.isDigit then if n < 0x80000000 then some n else none else none

def plainLength : Nat := 16

def width (type : String) : Nat :=
  if type.isEmpty then 1
  else
    let r := reading type
    if r.affinity.isNumeric then 1
    else
      let length :=
        match r.sized with
        | some cs => (smallNumber? (cs.dropWhile fun c => !c.isDigit)).getD 0
        | none => plainLength
      min 255 (length / 4 + 1)

example : ["", "int", "varchar(80)", "text(80)", "blob(80)", "double"].map width =
    [1, 1, 21, 5, 21, 1] := by
  decide +kernel

end Affinity

end Motif.Sql
