import Motif.Sql.Value

/-!
Trees of values that are written as texts: how they are read and written, and the paths on which the
values in them are found.
-/

set_option autoImplicit false

namespace Motif.Sql

open Database (Cell)

/-- A value that has no others in it. Numbers and strings are kept as they are written. -/
inductive Json.Atom where
  | null
  | truth (b : Bool)
  | integer (text : List Nat)
  | real (text : List Nat)
  | string (text : List Nat)
  | raw (text : List Nat)
deriving DecidableEq

/-- The values in an object stand behind labels, of which there are as many. -/
inductive Json where
  | atom (a : Json.Atom)
  | array (items : List Json)
  | object (labels : List (List Nat)) (items : List Json)

namespace Json

def bytesOf (text : String) : List Nat := text.toUTF8.toList.map UInt8.toNat

def isBlank (b : Nat) : Bool := b = 32 || b = 9 || b = 10 || b = 13

def skip (text : List Nat) : List Nat := text.dropWhile isBlank

def isHex (b : Nat) : Bool :=
  (48 ≤ b && b ≤ 57) || (65 ≤ b && b ≤ 70) || (97 ≤ b && b ≤ 102)

def hexValue (b : Nat) : Nat :=
  if b ≤ 57 then b - 48 else if b ≤ 70 then b - 55 else b - 87

/-- What is in front of the quote that closes a string, and what is behind it. -/
def string? : List Nat → Option (List Nat × List Nat)
  | [] => none
  | 34 :: rest => some ([], rest)
  | 92 :: 117 :: a :: b :: c :: d :: rest =>
    if [a, b, c, d].all isHex then
      (string? rest).map fun (inside, behind) => (92 :: 117 :: a :: b :: c :: d :: inside, behind)
    else none
  | 92 :: e :: rest =>
    if [34, 92, 47, 98, 102, 110, 114, 116].contains e then
      (string? rest).map fun (inside, behind) => (92 :: e :: inside, behind)
    else none
  | c :: rest =>
    if c < 32 ∨ c = 92 then none
    else (string? rest).map fun (inside, behind) => (c :: inside, behind)

/-- A number, whether it has a point or an exponent, and what is behind it. -/
def number? (text : List Nat) : Option (List Nat × Bool × List Nat) :=
  let body := if text.headD 0 = 45 then text.drop 1 else text
  let whole := Number.digits body
  let rest := body.drop whole.length
  let fraction? : Option Nat :=
    match rest with
    | 46 :: behind =>
      let digits := Number.digits behind
      if digits.isEmpty then none else some (digits.length + 1)
    | _ => some 0
  fraction?.bind fun fraction =>
    let rest := rest.drop fraction
    let exponent? : Option Nat :=
      match rest with
      | e :: behind =>
        if e ≠ 101 ∧ e ≠ 69 then some 0
        else
          let sign := if behind.headD 0 = 43 ∨ behind.headD 0 = 45 then 1 else 0
          let digits := Number.digits (behind.drop sign)
          if digits.isEmpty then none else some (1 + sign + digits.length)
      | [] => some 0
    exponent?.bind fun exponent =>
      if whole.isEmpty ∨ (whole.headD 0 = 48 ∧ 1 < whole.length) then none
      else
        let size := text.length - rest.length + exponent
        some (text.take size, 0 < fraction + exponent, text.drop size)

def words : List (List Nat × Atom) :=
  [(bytesOf "null", .null), (bytesOf "true", .truth true), (bytesOf "false", .truth false)]

def isWordByte (b : Nat) : Bool :=
  (48 ≤ b && b ≤ 57) || (65 ≤ b && b ≤ 90) || (97 ≤ b && b ≤ 122)

def word? (text : List Nat) : Option (Atom × List Nat) :=
  words.findSome? fun (word, a) =>
    let rest := text.drop word.length
    if word.isPrefixOf text ∧ !isWordByte (rest.headD 0) then some (a, rest) else none

mutual

/-- Reads a value at the front, whose end is no further away than the steps given. -/
def read? : Nat → List Nat → Option (Json × List Nat)
  | 0, _ => none
  | n + 1, text =>
    match skip text with
    | 123 :: rest =>
      match skip rest with
      | 125 :: behind => some (.object [] [], behind)
      | _ => members? n [] [] rest
    | 91 :: rest =>
      match skip rest with
      | 93 :: behind => some (.array [], behind)
      | _ => items? n [] rest
    | 34 :: rest => (string? rest).map fun (inside, behind) => (.atom (.string inside), behind)
    | b :: rest =>
      if b = 45 ∨ Number.isDigit b then
        (number? (b :: rest)).map fun (digits, isReal, behind) =>
          (.atom (if isReal then .real digits else .integer digits), behind)
      else (word? (b :: rest)).map fun (a, behind) => (.atom a, behind)
    | [] => none

def items? : Nat → List Json → List Nat → Option (Json × List Nat)
  | 0, _, _ => none
  | n + 1, found, text => do
    let (item, rest) ← read? n text
    match skip rest with
    | 44 :: behind => items? n (item :: found) behind
    | 93 :: behind => some (.array (item :: found).reverse, behind)
    | _ => none

def members? : Nat → List (List Nat) → List Json → List Nat → Option (Json × List Nat)
  | 0, _, _, _ => none
  | n + 1, labels, found, text => do
    match skip text with
    | 34 :: rest =>
      let (label, rest) ← string? rest
      match skip rest with
      | 58 :: rest =>
        let (item, rest) ← read? n rest
        match skip rest with
        | 44 :: behind => members? n (label :: labels) (item :: found) behind
        | 125 :: behind => some (.object (label :: labels).reverse (item :: found).reverse, behind)
        | _ => none
      | _ => none
    | _ => none

end

def ofText? (text : List Nat) : Option Json :=
  let text := text.takeWhile (· ≠ 0)
  match read? (text.length + 1) text with
  | some (j, rest) => if (skip rest).isEmpty then some j else none
  | none => none

def quote (inside : List Nat) : List Nat := [34] ++ inside ++ [34]

def escape (text : List Nat) : List Nat :=
  text.flatMap fun b =>
    if b = 34 ∨ b = 92 then [92, b]
    else if b < 32 then
      match b with
      | 8 => [92, 98]
      | 9 => [92, 116]
      | 10 => [92, 110]
      | 12 => [92, 102]
      | 13 => [92, 114]
      | _ => [92, 117, 48, 48] ++ (Nat.toDigits 16 (256 + b)).tail.map Char.toNat
    else [b]

def Atom.text : Atom → List Nat
  | .null => bytesOf "null"
  | .truth b => bytesOf (if b then "true" else "false")
  | .integer text | .real text | .raw text => text
  | .string inside => quote inside

mutual

def text : Json → List Nat
  | .atom a => a.text
  | .array items => [91] ++ ([44] : List Nat).intercalate (texts items) ++ [93]
  | .object labels items =>
    let members := (labels.zip (texts items)).map fun (label, item) => quote label ++ [58] ++ item
    [123] ++ ([44] : List Nat).intercalate members ++ [125]

def texts : List Json → List (List Nat)
  | [] => []
  | item :: rest => text item :: texts rest

end

def character (code : Nat) : List Nat :=
  if code < 0x80 then [code]
  else if code < 0x800 then [0xc0 + code / 64, 0x80 + code % 64]
  else if code < 0x10000 then [0xe0 + code / 4096, 0x80 + code / 64 % 64, 0x80 + code % 64]
  else
    [0xf0 + code / 262144, 0x80 + code / 4096 % 64, 0x80 + code / 64 % 64, 0x80 + code % 64]

def codeOf (a b c d : Nat) : Nat :=
  4096 * hexValue a + 256 * hexValue b + 16 * hexValue c + hexValue d

/-- The text that is between the quotes of a string. Two halves make a character beyond sixteen
bits; a zero ends the text. -/
def unescape : List Nat → List Nat
  | [] => []
  | 92 :: 117 :: a :: b :: c :: d :: 92 :: 117 :: e :: f :: g :: h :: rest =>
    let high := codeOf a b c d
    let low := codeOf e f g h
    if high / 1024 = 54 ∧ low / 1024 = 55 then
      character (0x10000 + 1024 * (high % 1024) + low % 1024) ++ unescape rest
    else if high = 0 then []
    else character high ++ unescape (92 :: 117 :: e :: f :: g :: h :: rest)
  | 92 :: 117 :: a :: b :: c :: d :: rest =>
    let code := codeOf a b c d
    if code = 0 then [] else character code ++ unescape rest
  | 92 :: e :: rest =>
    let named : Nat :=
      match e with
      | 98 => 8
      | 102 => 12
      | 110 => 10
      | 114 => 13
      | 116 => 9
      | e => e
    named :: unescape rest
  | b :: rest => b :: unescape rest

def cell (j : Json) : Cell :=
  match j with
  | .atom .null => .null
  | .atom (.truth b) => .ofBool b
  | .atom (.integer text) =>
    match Number.integer text with
    | (.all, n) => .integer n
    | _ => .ofFloat (Number.real text).2
  | .atom (.real text) => .ofFloat (Number.real text).2
  | .atom (.string inside) => .text (unescape inside)
  | j => .text j.text

def typeName : Json → String
  | .atom .null => "null"
  | .atom (.truth b) => if b then "true" else "false"
  | .atom (.integer _) => "integer"
  | .atom (.real _) => "real"
  | .atom _ => "text"
  | .array _ => "array"
  | .object _ _ => "object"

/-- A step to a value within another. Places in an array are counted from its beginning, or back from
behind its end. -/
inductive Step where
  | member (label : List Nat)
  | item (place : Nat)
  | last (distance : Nat)
deriving DecidableEq

namespace Step

def place? (size : Nat) : Step → Option Nat
  | .item place => some place
  | .last distance => if distance ≤ size then some (size - distance) else none
  | .member _ => none

/-- Reads the step that a path begins with. -/
def read? (path : List Nat) : Option (Step × List Nat) :=
  match path with
  | 46 :: 34 :: rest =>
    let label := rest.takeWhile (· ≠ 34)
    if label.isEmpty ∨ label.length = rest.length then none
    else some (.member label, rest.drop (label.length + 1))
  | 46 :: rest =>
    let label := rest.takeWhile fun b => b ≠ 46 && b ≠ 91
    if label.isEmpty then none else some (.member label, rest.drop label.length)
  | 91 :: 35 :: rest =>
    let digits := if rest.headD 0 = 45 then Number.digits (rest.drop 1) else []
    let rest := if digits.isEmpty then rest else rest.drop (digits.length + 1)
    if rest.headD 0 = 93 then some (.last (Number.value digits), rest.drop 1) else none
  | 91 :: rest =>
    let digits := Number.digits rest
    if digits.isEmpty ∨ (rest.drop digits.length).headD 0 ≠ 93 then none
    else some (.item (Number.value digits), rest.drop (digits.length + 1))
  | _ => none

end Step

def wrongStep (path : List Nat) : List Nat :=
  if path.headD 0 = 46 then path.drop 1 else path

def child? (j : Json) (step : Step) : Option Json :=
  match j, step with
  | .object labels items, .member label => (labels.idxOf? label).bind fun place => items[place]?
  | .array items, step => (step.place? items.length).bind fun place => items[place]?
  | _, _ => none

def opens (j : Json) (path : List Nat) : Bool :=
  match j, path with
  | .object _ _, 46 :: _ => true
  | .array _, 91 :: 35 :: _ => true
  | _, 46 :: _ | _, 91 :: 35 :: _ => false
  | _, _ => true

/-- The value on a path; if the path is wrong, what it is wrong from. It is read only as far as
there are values on it. -/
def find? (j : Json) : Nat → List Nat → Except (List Nat) (Option Json)
  | _, [] => .ok (some j)
  | 0, _ => .ok none
  | n + 1, path =>
    if !j.opens path then .ok none
    else
      match Step.read? path with
      | none => .error (wrongStep path)
      | some (step, rest) =>
        match j.child? step with
        | some item => item.find? n rest
        | none => .ok none

def at? (j : Json) (path : List Nat) : Except (List Nat) (Option Json) :=
  let path := path.takeWhile (· ≠ 0)
  match path with
  | 36 :: steps => j.find? steps.length steps
  | _ => .error path

end Json

end Motif.Sql
