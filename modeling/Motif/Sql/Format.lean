import Motif.Sql.Pattern
import Motif.Sql.Value

/-!
Texts made by a pattern: directives in it say which form the values take that stand in their places.
-/

set_option autoImplicit false

namespace Motif.Sql.Format

open Database (Cell)

/-- A place for a value: the form it takes, told by a letter, and how the place is filled. -/
structure Directive where
  left : Bool
  sign : List Nat
  alternate : Bool
  /-- Sizes are those of characters and not of bytes. -/
  isWide : Bool
  zeros : Bool
  thousands : Bool
  width : Nat
  precision : Option Nat
  letter : Char

def bytesOf (text : String) : List Nat := text.toUTF8.toList.map UInt8.toNat

def blanks (n : Nat) : List Nat := List.replicate n 32

def noughts (n : Nat) : List Nat := List.replicate n 48

def readFlags (d : Directive) : List Nat → Directive × List Nat
  | [] => (d, [])
  | b :: rest =>
    if b = 45 then readFlags { d with left := true } rest
    else if b = 43 then readFlags { d with sign := [43] } rest
    else if b = 32 then readFlags { d with sign := [32] } rest
    else if b = 35 then readFlags { d with alternate := true } rest
    else if b = 33 then readFlags { d with isWide := true } rest
    else if b = 48 then readFlags { d with zeros := true } rest
    else if b = 44 then readFlags { d with thousands := true } rest
    else (d, b :: rest)

def size (n : Nat) : Nat := n % 0x80000000

def readSize (pattern : List Nat) (values : List Cell) : (Bool × Nat) × List Nat × List Cell :=
  match pattern with
  | 42 :: rest =>
    let n := (BitVec.ofInt 32 (values.headD .null).toInt).toInt
    ((n < 0, if n = -0x80000000 then 0 else n.natAbs), rest, values.drop 1)
  | _ =>
    let digits := Number.digits pattern
    ((false, size (Number.value digits)), pattern.drop digits.length, values)

def read (pattern : List Nat) (values : List Cell) : Directive × List Nat × List Cell :=
  let (d, rest) := readFlags ⟨false, [], false, false, false, false, 0, none, ' '⟩ pattern
  let ((turned, width), rest, values) := readSize rest values
  let d := { d with left := d.left || turned, width }
  let (d, rest, values) :=
    match rest with
    | 46 :: behind =>
      let ((_, n), behind, values) := readSize behind values
      ({ d with precision := some n }, behind, values)
    | _ => (d, rest, values)
  let rest := if rest.headD 0 = 108 then rest.drop 1 else rest
  let rest := if rest.headD 0 = 108 then rest.drop 1 else rest
  ({ d with letter := Char.ofNat (rest.headD 0) }, rest.drop 1, values)

namespace Directive

def fill (d : Directive) (text : List Nat) (size : Nat) : List Nat :=
  let gap := blanks (d.width - size)
  if d.left then text ++ gap else gap ++ text

def fillText (d : Directive) (text : List Nat) : List Nat :=
  d.fill text (if d.isWide then (text.filter fun b => b / 64 ≠ 2).length else text.length)

def digits (base : Nat) (n : Nat) : List Nat := (Nat.toDigits base n).map Char.toNat

def withCommas (digits : List Nat) : List Nat :=
  (digits.zipIdx.flatMap fun (b, i) =>
    let left := digits.length - i
    if i ≠ 0 ∧ left % 3 = 0 then [44, b] else [b])

def ordinal (n : Nat) : List Nat :=
  let unit := if n / 10 % 10 = 1 then 0 else n % 10
  bytesOf (if unit = 1 then "st" else if unit = 2 then "nd" else if unit = 3 then "rd" else "th")

def integer (d : Directive) (sign front body : List Nat) (commas : Bool) : List Nat :=
  let least := d.precision.getD 0
  let least := if d.zeros then max least (d.width - sign.length) else least
  let body := noughts (least - body.length) ++ body
  let text := front ++ sign ++ if commas then withCommas body else body
  d.fill text text.length

def signed (d : Directive) (n : Int) (isOrdinal : Bool) : List Nat :=
  let body := digits 10 n.natAbs ++ if isOrdinal then ordinal n.natAbs else []
  d.integer (if n < 0 then [45] else d.sign) [] body (d.thousands && !isOrdinal)

def unsigned (d : Directive) (base : Nat) (front : List Nat) (isUpper commas : Bool) (n : Int) :
    List Nat :=
  let n := (BitVec.ofInt 64 n).toNat
  let body := (digits base n).map fun b => if isUpper ∧ 97 ≤ b then b - 32 else b
  d.integer [] (if d.alternate ∧ n ≠ 0 then front else []) body commas

def counted (d : Directive) : Nat := if d.isWide then 26 else 16

def limit (d : Directive) (digits : List Nat) : List Nat :=
  digits.take d.counted ++ noughts (digits.length - d.counted)

def pointed (d : Directive) (whole fraction : List Nat) (trims : Bool) : List Nat :=
  if fraction.isEmpty ∧ !d.alternate ∧ !d.isWide then whole
  else if trims then
    let kept := (fraction.reverse.dropWhile (· = 48)).reverse
    if kept.isEmpty then if d.isWide then whole ++ [46, 48] else whole
    else whole ++ [46] ++ kept
  else whole ++ [46] ++ fraction

/-- A number that is not negative with digits behind the point, as the fraction `a / b`. What is very
near to a half counts as one, as long as few digits are asked for. -/
def fixed (d : Directive) (x : Float) (a b : Nat) : List Nat :=
  let places := d.precision.getD 6
  let exponent := Int.ofNat (x.toBits.toNat / 0x10000000000000 % 2048) - 1023
  let (a, b) :=
    if Int.ofNat places + exponent.tdiv 3 < 15 then
      (a * (Number.pow 10 16 + 3), b * Number.pow 10 16)
    else (a, b)
  let found := Number.nearest (a * Number.pow 10 places) b
  let all := digits 10 found
  let all := if found = 0 then [] else d.limit all
  let all := noughts (places + 1 - all.length) ++ all
  let whole := all.length - places
  d.pointed (all.take whole) (all.drop whole) d.isWide

/-- The digits of the fraction `a / b`, one more than the places, and the power of ten of the first
of them. -/
def leading (d : Directive) (places : Nat) (a b : Nat) : List Nat × Int :=
  if a = 0 then (noughts (places + 1), 0)
  else
    let rec find : Nat → Int → Int
      | 0, power => power
      | n + 1, power =>
        if a * Number.pow 10 (-power).toNat < b * Number.pow 10 power.toNat then find n (power - 1)
        else power
    let power := find 700 309
    let shift := Int.ofNat places - power
    let found :=
      Number.nearest (a * Number.pow 10 shift.toNat) (b * Number.pow 10 (-shift).toNat)
    let isLonger := Number.pow 10 (places + 1) ≤ found
    let all := digits 10 (if isLonger then found / 10 else found)
    (d.limit all, if isLonger then power + 1 else power)

def exponentText (mark : Nat) (power : Int) : List Nat :=
  let size := digits 10 power.natAbs
  [mark, if power < 0 then 45 else 43] ++ noughts (2 - size.length) ++ size

def scientific (d : Directive) (mark : Nat) (trims : Bool) (all : List Nat) (power : Int) :
    List Nat :=
  d.pointed (all.take 1) (all.drop 1) trims ++ exponentText mark power

def general (d : Directive) (mark : Nat) (a b : Nat) : List Nat :=
  let places := d.precision.getD 6 - 1
  let (all, power) := d.leading places a b
  let trims := !d.alternate
  if power < -4 ∨ Int.ofNat places < power then d.scientific mark trims all power
  else if power < 0 then d.pointed [48] (noughts (power.natAbs - 1) ++ all) trims
  else d.pointed (all.take (power.toNat + 1)) (all.drop (power.toNat + 1)) trims

def real (d : Directive) (x : Float) : List Nat :=
  let sign := if x < 0.0 then [45] else d.sign
  if x.isInf then
    let text := sign ++ bytesOf "Inf"
    d.fill text text.length
  else
    let (m, e) := Number.parts x.abs
    let a := m * Number.pow 2 e.toNat
    let b := Number.pow 2 (-e).toNat
    let mark := if d.letter.isUpper then 69 else 101
    let body :=
      match d.letter.toLower with
      | 'f' => d.fixed x.abs a b
      | 'e' =>
        let (all, power) := d.leading (d.precision.getD 6) a b
        d.scientific mark d.isWide all power
      | _ => d.general mark a b
    let gap := if d.zeros ∧ !d.left then d.width - (sign.length + body.length) else 0
    let text := sign ++ noughts gap ++ body
    d.fill text text.length

def front (d : Directive) (text : List Nat) : List Nat :=
  let text := text.takeWhile (· ≠ 0)
  match d.precision with
  | none => text
  | some n =>
    if d.isWide then ((Pattern.characters text).take n).flatten else text.take n

def quoted (d : Directive) (quote : Nat) (c : Cell) : List Nat :=
  let isFull := d.letter = 'Q'
  if c.isNull then d.fillText (d.front (bytesOf (if isFull then "NULL" else "(NULL)")))
  else
    let body := (d.front c.bytes).flatMap fun b => if b = quote then [b, b] else [b]
    d.fillText (if isFull then [quote] ++ body ++ [quote] else body)

def character (d : Directive) (c : Cell) : List Nat :=
  let first := ((Pattern.characters (c.bytes.takeWhile (· ≠ 0))).head?).getD [0]
  let d := { d with isWide := true }
  let text := (List.replicate (max 1 (d.precision.getD 1)) first).flatten
  d.fillText text

def written? (d : Directive) (c : Cell) : Option (List Nat) :=
  match d.letter with
  | 'd' | 'i' => some (d.signed c.toInt false)
  | 'r' => some (d.signed c.toInt true)
  | 'u' => some (d.unsigned 10 [] false d.thousands c.toInt)
  | 'x' => some (d.unsigned 16 (bytesOf "0x") false false c.toInt)
  | 'X' => some (d.unsigned 16 (bytesOf "0X") true false c.toInt)
  | 'p' => some (d.unsigned 16 (bytesOf "0x") true false c.toInt)
  | 'o' => some (d.unsigned 8 (bytesOf "0") false false c.toInt)
  | 'f' | 'e' | 'E' | 'g' | 'G' => some (d.real c.toFloat)
  | 's' | 'z' => some (d.fillText (d.front c.bytes))
  | 'q' | 'Q' => some (d.quoted 39 c)
  | 'w' => some (d.quoted 34 c)
  | 'c' => some (d.character c)
  | _ => none

end Directive

/-- The pattern with the values in the places of its directives, as far as these are known. Each step
takes some of the pattern, so there are no more steps than it is long. -/
def text : Nat → List Nat → List Cell → List Nat
  | 0, _, _ => []
  | n + 1, pattern, values =>
    let plain := pattern.takeWhile (· ≠ 37)
    match pattern.drop plain.length with
    | [] => plain
    | [b] => plain ++ [b]
    | _ :: rest =>
      let (d, rest, values) := read rest values
      plain ++
        match d.letter with
        | '%' => d.fill [37] 1 ++ text n rest values
        | 'n' => text n rest values
        | _ =>
          match d.written? (values.headD .null) with
          | some found => found ++ text n rest (values.drop 1)
          | none => []

def ofValues (arguments : List Cell) : Cell :=
  match arguments with
  | [] | .null :: _ => .null
  | pattern :: values =>
    let pattern := pattern.bytes.takeWhile (· ≠ 0)
    .text (text (pattern.length + 1) pattern values)

end Motif.Sql.Format
