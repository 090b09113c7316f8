/-!
Numbers in groups of seven bits, the highest first; every byte but the last has its high bit set.
Reading stops behind nine bytes at the latest, and the ninth gives all its bits.
-/

set_option autoImplicit false

namespace Motif.Database.Varint

def upper (n : Nat) (behind : List Nat) : List Nat :=
  if n = 0 then behind else upper (n / 128) ((n % 128 + 128) :: behind)
termination_by n

def encode (n : Nat) : List Nat := upper (n / 128) [n % 128]

/-- Reads on behind `value`, while `left` bytes may follow; gives the number and the position
behind it. -/
def decodeFrom (byte : Nat → Nat) (value : Nat) : Nat → Nat → Nat × Nat
  | 0, position => (256 * value + byte position, position + 1)
  | left + 1, position =>
    let b := byte position
    if b < 128 then (128 * value + b, position + 1)
    else decodeFrom byte (128 * value + (b - 128)) left (position + 1)

def decode (byte : Nat → Nat) (position : Nat) : Nat × Nat := decodeFrom byte 0 8 position

end Motif.Database.Varint
