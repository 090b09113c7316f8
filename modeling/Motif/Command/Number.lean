/-!
Numbers on a command line: decimal digits after an optional sign, within bounds. Digits are taken
one by one, so a number that has grown too large is refused before a later character is looked
at.
-/

set_option autoImplicit false

namespace Motif.Command

inductive NumberError where
  | empty
  | invalidDigit
  | tooLarge
  | tooSmall
deriving DecidableEq

def NumberError.name : NumberError → String
  | .empty => "Empty"
  | .invalidDigit => "InvalidDigit"
  | .tooLarge => "PosOverflow"
  | .tooSmall => "NegOverflow"

/-- Reads digits behind a number already read, refusing with `overflow` above `limit`. -/
def readDigits (limit : Nat) (overflow : NumberError) (read : Nat) :
    List Char → Except NumberError Nat
  | [] => .ok read
  | c :: cs =>
    if c.isDigit then
      let grown := 10 * read + (c.toNat - '0'.toNat)
      if limit < grown then .error overflow else readDigits limit overflow grown cs
    else .error .invalidDigit

def readUnsigned (limit : Nat) (overflow : NumberError) : List Char → Except NumberError Nat
  | [] => .error .invalidDigit
  | cs => readDigits limit overflow 0 cs

def largestNat : Nat := 0xffffffffffffffff

/-- The largest signed number of 64 bits; the smallest is one further from zero. -/
def largestInt : Nat := 0x7fffffffffffffff

def readNat (text : String) : Except NumberError Nat :=
  match text.toList with
  | [] => .error .empty
  | '+' :: cs => readUnsigned largestNat .tooLarge cs
  | cs => readUnsigned largestNat .tooLarge cs

def readInt (text : String) : Except NumberError Int :=
  match text.toList with
  | [] => .error .empty
  | '-' :: cs => do return -Int.ofNat (← readUnsigned (largestInt + 1) .tooSmall cs)
  | '+' :: cs => do return Int.ofNat (← readUnsigned largestInt .tooLarge cs)
  | cs => do return Int.ofNat (← readUnsigned largestInt .tooLarge cs)

end Motif.Command
