import Motif.Text.Utf8

/-!
Reading bytes as UTF-16: pairs of bytes are units, and a unit that opens a surrogate pair makes a
character with the next one.
-/

set_option autoImplicit false

namespace Motif.Text.Utf16

def units (littleEndian : Bool) : List Nat → List Nat
  | a :: b :: rest =>
    (if littleEndian then 256 * b + a else 256 * a + b) :: units littleEndian rest
  | _ => []

def isHigh (u : Nat) : Bool := 0xD800 ≤ u && u < 0xDC00

def isLow (u : Nat) : Bool := 0xDC00 ≤ u && u < 0xE000

/-- The characters of units, behind the first half of a pair if one is open. Half a pair is no
character and is replaced. -/
def characters : Option Nat → List Nat → List Char
  | none, [] => []
  | some _, [] => [Utf8.replacement]
  | opened?, u :: rest =>
    match opened?, isLow u with
    | some opened, true =>
      Char.ofNat (0x10000 + 0x400 * (opened - 0xD800) + (u - 0xDC00)) :: characters none rest
    | none, true => Utf8.replacement :: characters none rest
    | _, false =>
      (if opened?.isSome then [Utf8.replacement] else []) ++
        if isHigh u then characters (some u) rest else Char.ofNat u :: characters none rest

def text (littleEndian : Bool) (bytes : List Nat) : String :=
  String.ofList (characters none (units littleEndian bytes))

end Motif.Text.Utf16
