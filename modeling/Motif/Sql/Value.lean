import Motif.Database.Cell
import Motif.Sql.Affinity
import Motif.Sql.Expression
import Motif.Sql.Number

/-!
Values as expressions compute with them: cells, turned from one storage class into another as an
affinity or an operator asks for, and put in order.
-/

set_option autoImplicit false

namespace Motif.Database.Cell

open Sql

def ofFloat (x : Float) : Cell := if x.isNaN then .null else .real x.toBits.toNat

def floatOf (bits : Nat) : Float := Float.ofBits (UInt64.ofNat bits)

def ofBool (b : Bool) : Cell := .integer (if b then 1 else 0)

def ofText (text : String) : Cell := .text (text.toUTF8.toList.map UInt8.toNat)

def isNull (c : Cell) : Bool := c == .null

def bytes : Cell → List Nat
  | .null => []
  | .integer n => (toString n).toUTF8.toList.map UInt8.toNat
  | .real bits => (Number.text (floatOf bits)).toUTF8.toList.map UInt8.toNat
  | .text b | .blob b => b

def toInt : Cell → Int
  | .null => 0
  | .integer n => n
  | .real bits => Number.truncate (floatOf bits)
  | .text b | .blob b => (Number.integer b).2

def toFloat : Cell → Float
  | .null => 0.0
  | .integer n => Float.ofInt n
  | .real bits => floatOf bits
  | .text b | .blob b => (Number.real b).2

def truth? : Cell → Option Bool
  | .null => none
  | .integer n => some (n ≠ 0)
  | c => some (c.toFloat != 0.0)

def ofTruth : Option Bool → Cell
  | some b => ofBool b
  | none => .null

def wholeIfSame (x : Float) : Cell :=
  match Number.whole? x with
  | some n => .integer n
  | none => ofFloat x

def numberIfSame (b : List Nat) : Cell :=
  match Number.real b with
  | (.integer, x) =>
    match Number.small? x, Number.integer b with
    | some n, _ => .integer n
    | none, (.all, n) => .integer n
    | none, _ => ofFloat x
  | (.decimal, x) => ofFloat x
  | _ => .text b

def numeral : Cell → Cell
  | .text b | .blob b =>
    match Number.real b, Number.integer b with
    | (.integer, _), (.all, n) => .integer n
    | (.none, x), (whole, n) => if whole = .tooLarge then ofFloat x else .integer n
    | (_, x), _ => ofFloat x
  | c => c

/-- Turns a value into what an affinity prefers, if it keeps what it is. -/
def prefer (affinity : Affinity) (c : Cell) : Cell :=
  match affinity, c with
  | .blob, _ => c
  | .text, .integer _ | .text, .real _ => .text c.bytes
  | .text, _ => c
  | _, .text b =>
    match numberIfSame b with
    | .real bits => wholeIfSame (floatOf bits)
    | other => other
  | _, .real bits => wholeIfSame (floatOf bits)
  | _, _ => c

def asReal : Cell → Cell
  | .integer n => ofFloat (Float.ofInt n)
  | c => c

def store (affinity : Affinity) (c : Cell) : Cell :=
  if affinity = .real then (c.prefer .real).asReal else c.prefer affinity

def toNumber : Cell → Cell
  | .text b | .blob b =>
    let (form, x) := Number.real b
    let (whole, n) := Number.integer b
    if (form = .none ∨ form = .integer) ∧ whole ≠ .tooLarge then .integer n
    else
      match Number.small? x with
      | some m => .integer m
      | none => ofFloat x
  | c => c

def cast (affinity : Affinity) (c : Cell) : Cell :=
  if c.isNull then .null
  else
    match affinity with
    | .blob => .blob c.bytes
    | .text => .text c.bytes
    | .numeric => c.toNumber
    | .integer => .integer c.toInt
    | .real => ofFloat c.toFloat

def typeName : Cell → String
  | .null => "null"
  | .integer _ => "integer"
  | .real _ => "real"
  | .text _ => "text"
  | .blob _ => "blob"

end Motif.Database.Cell

namespace Motif.Sql

open Database (Cell)

/-- The ways of comparing texts. -/
inductive Collation where
  | binary
  | noCase
  | trimmed
deriving DecidableEq

namespace Collation

def ofName? (name : String) : Option Collation :=
  match Token.lower name with
  | "binary" => some .binary
  | "nocase" => some .noCase
  | "rtrim" => some .trimmed
  | _ => none

def lowerByte (b : Nat) : Nat := if 65 ≤ b ∧ b ≤ 90 then b + 32 else b

def upperByte (b : Nat) : Nat := if 97 ≤ b ∧ b ≤ 122 then b - 32 else b

def key (c : Collation) (text : List Nat) : List Nat :=
  match c with
  | .binary => text
  | .noCase => text.map lowerByte
  | .trimmed => (text.reverse.dropWhile (· = 32)).reverse

def compareBytes : List Nat → List Nat → Ordering
  | [], [] => .eq
  | [], _ :: _ => .lt
  | _ :: _, [] => .gt
  | a :: as, b :: bs => if a < b then .lt else if b < a then .gt else compareBytes as bs

def rank : Cell → Nat
  | .null => 0
  | .integer _ | .real _ => 1
  | .text _ => 2
  | .blob _ => 3

def compareFloats (x y : Float) : Ordering := if x < y then .lt else if y < x then .gt else .eq

def compare (c : Collation) (a b : Cell) : Ordering :=
  match a, b with
  | .integer m, .integer n => Ord.compare m n
  | .integer m, .real y => Number.compare m (Cell.floatOf y)
  | .real x, .integer n => (Number.compare n (Cell.floatOf x)).swap
  | .real x, .real y => compareFloats (Cell.floatOf x) (Cell.floatOf y)
  | .text s, .text t => compareBytes (c.key s) (c.key t)
  | .blob s, .blob t => compareBytes s t
  | _, _ => Ord.compare (rank a) (rank b)

end Collation

/-- Numbers in texts count as numbers where one side has a numeric affinity; numbers count as texts
where the affinity is that of texts. -/
def prepare (affinity : Affinity) (c : Cell) : Cell :=
  match affinity, c with
  | .blob, _ => c
  | .text, .integer _ | .text, .real _ => .text c.bytes
  | .text, _ => c
  | _, .text b => Cell.numberIfSame b
  | _, _ => c

/-- Compares two values that an affinity has been chosen for. -/
def Comparison.holds (op : Comparison) (affinity : Affinity) (collation : Collation) (a b : Cell) :
    Option Bool :=
  let ordering := collation.compare (prepare affinity a) (prepare affinity b)
  match op with
  | .same => some (ordering == .eq)
  | .distinct => some (ordering != .eq)
  | _ =>
    if a.isNull ∨ b.isNull then none
    else
      match op with
      | .equal => some (ordering == .eq)
      | .different => some (ordering != .eq)
      | .less => some (ordering == .lt)
      | .atMost => some (ordering != .gt)
      | .greater => some (ordering == .gt)
      | _ => some (ordering != .lt)

namespace Arithmetic

def onIntegers? (op : Arithmetic) (a b : Int) : Option Cell :=
  let kept (n : Int) : Option Cell := if Number.fits n then some (.integer n) else none
  match op with
  | .add => kept (a + b)
  | .subtract => kept (a - b)
  | .multiply => kept (a * b)
  | .divide => if b = 0 then some .null else kept (Int.tdiv a b)
  | .remainder => if b = 0 then some .null else kept (Int.tmod a b)
  | _ => none

def onReals (op : Arithmetic) (a b : Cell) : Cell :=
  let x := a.toFloat
  let y := b.toFloat
  match op with
  | .add => .ofFloat (x + y)
  | .subtract => .ofFloat (x - y)
  | .multiply => .ofFloat (x * y)
  | .divide => if y == 0.0 then .null else .ofFloat (x / y)
  | _ =>
    let n := b.toInt
    if n = 0 then .null else .ofFloat (Float.ofInt (Int.tmod a.toInt n))

def shifted (n distance : Int) : Int :=
  if 64 ≤ distance then 0
  else if distance ≤ -64 then if n < 0 then -1 else 0
  else if 0 ≤ distance then (BitVec.ofInt 64 n <<< distance.toNat).toInt
  else (BitVec.sshiftRight (BitVec.ofInt 64 n) distance.natAbs).toInt

def onBits (op : Arithmetic) (a b : Int) : Int :=
  let x := BitVec.ofInt 64 a
  let y := BitVec.ofInt 64 b
  match op with
  | .bitAnd => (x &&& y).toInt
  | .bitOr => (x ||| y).toInt
  | .shiftLeft => shifted a b
  | _ => shifted a (-b)

def apply (op : Arithmetic) (a b : Cell) : Cell :=
  if a.isNull ∨ b.isNull then .null
  else
    match op with
    | .join => .text (a.bytes ++ b.bytes)
    | .bitAnd | .bitOr | .shiftLeft | .shiftRight => .integer (op.onBits a.toInt b.toInt)
    | _ =>
      match a.numeral, b.numeral with
      | .integer m, .integer n => (op.onIntegers? m n).getD (op.onReals (.integer m) (.integer n))
      | _, _ => op.onReals a b

end Arithmetic

def opposite (c : Cell) : Cell := Arithmetic.subtract.apply (.integer 0) c

def complement (c : Cell) : Cell :=
  if c.isNull then .null else .integer ((~~~ BitVec.ofInt 64 c.toInt).toInt)

end Motif.Sql
