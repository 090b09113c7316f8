/-!
Numbers as texts: how much of a text is a number, which one, and how a real number is written.
Texts are given by their bytes.
-/

set_option autoImplicit false

namespace Motif.Sql.Number

def isSpace (b : Nat) : Bool := b = 32 || (9 ≤ b && b ≤ 13)

def isDigit (b : Nat) : Bool := 48 ≤ b && b ≤ 57

def largest : Int := 0x7fffffffffffffff

def smallest : Int := -0x8000000000000000

def fits (n : Int) : Bool := smallest ≤ n && n ≤ largest

def clamp (n : Int) : Int := max smallest (min largest n)

def sign (bytes : List Nat) : Bool × List Nat :=
  match bytes with
  | 45 :: rest => (true, rest)
  | 43 :: rest => (false, rest)
  | _ => (false, bytes)

def digits (bytes : List Nat) : List Nat := bytes.takeWhile isDigit

def value (digits : List Nat) : Nat := digits.foldl (fun n b => 10 * n + (b - 48)) 0

/-- What is to be said of a text as an integer. -/
inductive Whole where
  | none
  | all
  | front
  | tooLarge
deriving DecidableEq

/-- The integer that a text begins with; one that does not fit is brought to the next that does. -/
def integer (bytes : List Nat) : Whole × Int :=
  let (negative, body) := sign (bytes.dropWhile isSpace)
  let found := digits body
  let n : Int := if negative then -Int.ofNat (value found) else value found
  let rest := body.drop found.length
  if found.isEmpty then (.none, 0)
  else if !fits n then (.tooLarge, clamp n)
  else if rest.all isSpace then (.all, n)
  else (.front, n)

/-- What is to be said of a text as a number. -/
inductive Form where
  | none
  | integer
  | decimal
  /-- It begins with a number that has a point or an exponent, and goes on. -/
  | front
deriving DecidableEq

def significandLimit : Nat := 922337203685477579

def significand (whole fraction : List Nat) : Nat × Int :=
  let take (n : Nat) (b : Nat) : Nat := 10 * n + (b - 48)
  let (n, scale) := whole.foldl (fun (n, scale) b =>
    if n < significandLimit then (take n b, scale) else (n, scale + 1)) (0, (0 : Int))
  fraction.foldl (fun (n, scale) b =>
    if n < significandLimit then (take n b, scale - 1) else (n, scale)) (n, scale)

def exponentLimit : Nat := 10000

/-- The exponent at the front: whether there is a mark of one, whether it has digits, its value, and
what follows. -/
def exponent (bytes : List Nat) : Bool × Bool × Int × List Nat :=
  match bytes with
  | b :: rest =>
    if b = 101 ∨ b = 69 then
      let (negative, body) := sign rest
      let found := digits body
      let n : Int := min exponentLimit (value found)
      (true, !found.isEmpty, if negative then -n else n, body.drop found.length)
    else (false, true, 0, bytes)
  | [] => (false, true, 0, [])

def scaled (n : Nat) (scale : Int) : Float :=
  if n = 0 then 0.0
  else if scale < 0 then Float.ofScientific n true scale.natAbs
  else Float.ofScientific n false scale.natAbs

def real (bytes : List Nat) : Form × Float :=
  let (negative, body) := sign (bytes.dropWhile isSpace)
  let whole := digits body
  let rest := body.drop whole.length
  let pointed := rest.headD 0 = 46
  let fraction := if pointed then digits (rest.drop 1) else []
  let rest := if pointed then rest.drop (1 + fraction.length) else rest
  let (marked, complete, power, rest) := exponent rest
  let (n, scale) := significand whole fraction
  let x := scaled n (scale + power)
  let x := if negative then -x else x
  if whole.isEmpty ∧ fraction.isEmpty then (.none, x)
  else if complete ∧ rest.all isSpace then (if pointed ∨ marked then .decimal else .integer, x)
  else if (pointed ∧ marked) ∨ ((pointed ∨ marked) ∧ complete) then (.front, x)
  else (.none, x)

def truncate (x : Float) : Int :=
  if x ≤ -9223372036854775808.0 then smallest
  else if 9223372036854775807.0 ≤ x then largest
  else x.toInt64.toInt

def exactLimit : Int := 2251799813685248

def small? (x : Float) : Option Int :=
  let n := truncate x
  if x == 0.0 then some 0
  else if Float.ofInt n == x ∧ -exactLimit ≤ n ∧ n < exactLimit then some n
  else none

def whole? (x : Float) : Option Int :=
  let n := truncate x
  if Float.ofInt n == x ∧ smallest < n ∧ n < largest then some n else none

def compare (n : Int) (x : Float) : Ordering :=
  if x < -9223372036854775808.0 then .gt
  else if 9223372036854775808.0 ≤ x then .lt
  else
    match Ord.compare n (truncate x) with
    | .eq =>
      let back := Float.ofInt (truncate x)
      if back < x then .lt else if x < back then .gt else .eq
    | other => other

def parts (x : Float) : Nat × Int :=
  let bits := x.toBits.toNat
  let power := bits / 0x10000000000000 % 2048
  let low := bits % 0x10000000000000
  if power = 0 then (low, -1074) else (low + 0x10000000000000, Int.ofNat power - 1075)

def pow (base : Nat) : Nat → Nat
  | 0 => 1
  | n + 1 => base * pow base n

def writtenDigits : Nat := 15

def nearest (a b : Nat) : Nat := (2 * a + b) / (2 * b)

/-- The digits of a positive number as an integer, and the power of ten of the first of them. The
power is looked for among those that are left, highest first. -/
def leadingDigits (a b : Nat) : Nat → Int → Nat × Int
  | 0, _ => (0, 0)
  | n + 1, power =>
    let shift := Int.ofNat (writtenDigits - 1) - power
    let top := a * pow 10 shift.toNat
    let bottom := b * pow 10 (-shift).toNat
    if top < bottom * pow 10 (writtenDigits - 1) then leadingDigits a b n (power - 1)
    else
      let found := nearest top bottom
      if found < pow 10 writtenDigits then (found, power) else (found / 10, power + 1)

def trimZeros (digits : List Char) : List Char := (digits.reverse.dropWhile (· = '0')).reverse

def orZero (digits : List Char) : List Char := if digits.isEmpty then ['0'] else digits

/-- How the number with these digits is written, the first of which stands for a power of ten. -/
def spell (digits : List Char) (power : Int) : List Char :=
  if power < -4 ∨ Int.ofNat writtenDigits ≤ power then
    let sign := if power < 0 then '-' else '+'
    let size := power.natAbs
    let exponent := if size < 10 then '0' :: (toString size).toList else (toString size).toList
    digits.take 1 ++ ['.'] ++ orZero (trimZeros (digits.drop 1)) ++ ['e', sign] ++ exponent
  else if power < 0 then
    ['0', '.'] ++ List.replicate (power.natAbs - 1) '0' ++ orZero (trimZeros digits)
  else
    let whole := power.toNat + 1
    digits.take whole ++ ['.'] ++ orZero (trimZeros (digits.drop whole))

def text (x : Float) : String :=
  if x.isInf then if x < 0.0 then "-Inf" else "Inf"
  else if x == 0.0 then "0.0"
  else
    let (m, e) := parts x.abs
    let (digits, power) := leadingDigits (m * pow 2 e.toNat) (pow 2 (-e).toNat) 700 309
    let spelled := spell (toString digits).toList power
    String.ofList (if x < 0.0 then '-' :: spelled else spelled)

end Motif.Sql.Number
