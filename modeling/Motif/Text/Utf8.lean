/-!
Reading bytes as UTF-8. `decode` gives the text, or says where the longest valid beginning ends
and how many bytes after it can begin no character.
-/

set_option autoImplicit false

namespace Motif.Text.Utf8

/-- Where decoding stops: `length` bytes are fine, then a character is cut short by the end of
the bytes, or `bad` bytes belong to no character. -/
inductive Error where
  | incomplete (length : Nat)
  | invalid (length bad : Nat)
deriving DecidableEq

def Error.message : Error → String
  | .incomplete length => s!"incomplete utf-8 byte sequence from index {length}"
  | .invalid length bad => s!"invalid utf-8 sequence of {bad} bytes from index {length}"

def isTail (b : Nat) : Bool := 0x80 ≤ b && b ≤ 0xBF

/-- The bytes that may stand second after the leading byte `b`, and how many bytes the character
has in all; a byte that leads nothing has no such range. Overlong forms, surrogates and values
past the last code point are ruled out by the second byte. -/
def lead (b : Nat) : Option (Nat × Nat × Nat) :=
  if 0xC2 ≤ b ∧ b ≤ 0xDF then some (2, 0x80, 0xBF)
  else if b = 0xE0 then some (3, 0xA0, 0xBF)
  else if b = 0xED then some (3, 0x80, 0x9F)
  else if 0xE1 ≤ b ∧ b ≤ 0xEF then some (3, 0x80, 0xBF)
  else if b = 0xF0 then some (4, 0x90, 0xBF)
  else if 0xF1 ≤ b ∧ b ≤ 0xF3 then some (4, 0x80, 0xBF)
  else if b = 0xF4 then some (4, 0x80, 0x8F)
  else none

/-- What stands at the front of some bytes: a character of `size` bytes with the bytes after it,
a character the end cuts short, or `bad` bytes of no character. -/
inductive Front where
  | character (code size : Nat) (rest : List Nat)
  | short
  | broken (bad : Nat)

def tails (taken code : Nat) : Nat → List Nat → Front
  | 0, rest => .character code taken rest
  | _ + 1, [] => .short
  | owed + 1, b :: rest =>
    if isTail b then tails (taken + 1) (code * 64 + (b - 0x80)) owed rest else .broken taken

/-- The leading byte of a character of `size` bytes carries the bits below its length mark. -/
def leadBits (size b : Nat) : Nat :=
  match size with
  | 2 => b - 0xC0
  | 3 => b - 0xE0
  | _ => b - 0xF0

def front (b : Nat) (rest : List Nat) : Front :=
  if b < 0x80 then .character b 1 rest
  else
    match lead b with
    | none => .broken 1
    | some (size, low, high) =>
      match rest with
      | [] => .short
      | second :: more =>
        if low ≤ second ∧ second ≤ high then
          tails 2 (leadBits size b * 64 + (second - 0x80)) (size - 2) more
        else .broken 1

theorem tails_length {taken code owed : Nat} {bytes rest : List Nat} {c size : Nat}
    (h : tails taken code owed bytes = .character c size rest) : rest.length ≤ bytes.length := by
  induction owed generalizing taken code bytes with
  | zero => simp only [tails, Front.character.injEq] at h; simp [h.2]
  | succ owed ih =>
    cases bytes with
    | nil => simp [tails] at h
    | cons b bytes =>
      unfold tails at h
      split at h
      · have := ih h; simp only [List.length_cons]; omega
      · simp at h

theorem front_length {b c size : Nat} {bytes rest : List Nat}
    (h : front b bytes = .character c size rest) : rest.length ≤ bytes.length := by
  unfold front at h
  split at h
  · simp only [Front.character.injEq] at h; simp [h.2]
  · split at h
    · simp at h
    · split at h
      · simp at h
      · split at h
        · have := tails_length h; simp only [List.length_cons]; omega
        · simp at h

/-- Decodes `bytes`, which begin at index `start`, after the characters `done` (latest first). -/
def decodeFrom (start : Nat) (done : List Char) (bytes : List Nat) : Except Error (List Char) :=
  match bytes with
  | [] => .ok done.reverse
  | b :: rest =>
    match _h : front b rest with
    | .short => .error (.incomplete start)
    | .broken bad => .error (.invalid start bad)
    | .character code size more => decodeFrom (start + size) (Char.ofNat code :: done) more
termination_by bytes.length
decreasing_by
  have := front_length _h
  simp only [List.length_cons]
  omega

def decode (bytes : List Nat) : Except Error (List Char) :=
  decodeFrom 0 [] bytes

/-- Stands for bytes that begin no character. -/
def replacement : Char := '\ufffd'

/-- Decodes bytes with a replacement for each part that is no character. -/
def replacing : List Nat → List Char
  | [] => []
  | b :: rest =>
    match _h : front b rest with
    | .short => [replacement]
    | .broken bad => replacement :: replacing (rest.drop (bad - 1))
    | .character code _ more => Char.ofNat code :: replacing more
termination_by bytes => bytes.length
decreasing_by
  · simp only [List.length_drop, List.length_cons]
    omega
  · have := front_length _h
    simp only [List.length_cons]
    omega

def text (bytes : List Nat) : String := String.ofList (replacing bytes)

def encode (text : String) : List Nat := text.toUTF8.toList.map UInt8.toNat

end Motif.Text.Utf8
