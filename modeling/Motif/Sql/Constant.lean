import Motif.Sql.Value

/-!
Expressions that are the same for every row: which of them may stand for a value that is missing,
and which value they stand for.
-/

set_option autoImplicit false

namespace Motif.Sql

open Database (Cell)

namespace Expr

variable {κ : Type}

def windowTerms : Over (Expr κ) → List (Expr κ)
  | .name _ => []
  | .own w => w.parts ++ w.order.map Order.key

def children : Expr κ → List (Expr κ)
  | .literal _ | .name _ | .parameter | .exists _ | .scalar _ | .raise => []
  | .positive e | .negative e | .complement e | .not e | .isNull e | .notNull e | .cast e _
  | .collate e _ | .amongRows e _ => [e]
  | .and a b | .or a b | .arithmetic _ a b | .compare _ a b => [a, b]
  | .between e low high => [e, low, high]
  | .among e list => e :: list
  | .choice branches other => (branches.flatMap fun b => [b.1, b.2]) ++ [other]
  | .call _ _ arguments filter over? =>
    arguments.getD [] ++ filter.toList ++ (over?.map fun o => windowTerms o.1).getD []
  | .row fields => fields

def mostLevels : Nat := 1000

def subterms : Nat → Expr κ → List (Expr κ)
  | 0, _ => []
  | n + 1, e => e :: e.children.flatMap (subterms n)

def all (e : Expr κ) : List (Expr κ) := subterms mostLevels e

def isShallow : Expr κ → Bool
  | .name _ | .call .. => true
  | _ => false

/-- The last of the arguments of a wrong call that is wrong as well: they are looked at up to the
first that is no name, and so are those of a call among them. -/
def lastWrongTo (isWrong : Expr κ → Bool) : Nat → List (Expr κ) → Option (Expr κ)
  | n + 1, .name own :: rest =>
    let own := Expr.name own
    if isWrong own then some own else lastWrongTo isWrong n rest
  | n + 1, .call f d arguments filter over? :: _ =>
    let own := Expr.call f d arguments filter over?
    (lastWrongTo isWrong n (arguments.getD [])).or (if isWrong own then some own else none)
  | _, _ => none

def lastWrong? (isWrong : Expr κ → Bool) : Expr κ → Option (Expr κ)
  | .call _ _ arguments _ _ => lastWrongTo isWrong mostLevels (arguments.getD [])
  | _ => none

def truth? : Expr κ → Option Bool
  | .name n =>
    if n.isQuoted ∨ !n.path.isEmpty then none
    else
      match Token.lower n.column with
      | "true" => some true
      | "false" => some false
      | _ => none
  | _ => none

def isConstant (e : Expr κ) : Bool :=
  e.all.all fun part =>
    match part with
    | .name _ => part.truth?.isSome
    | .amongRows _ _ | .exists _ | .scalar _ => false
    | _ => true

def isFixed (e : Expr κ) : Bool :=
  e.isConstant && e.all.all fun part =>
    match part with
    | .call .. | .raise => false
    | _ => true

end Expr

namespace Literal

/-- The value of digits, with or without a sign in front, as a column of an affinity takes it. -/
def number (affinity : Affinity) (negative : Bool) (digits : String) : Cell :=
  let preferred := if affinity = .blob then .numeric else affinity
  let plain (n : Nat) : Cell := .integer (if negative then -Int.ofNat n else n)
  let cell : Cell :=
    match small? digits.toList with
    | some n => plain n
    | none => .ofText (if negative then "-" ++ digits else digits)
  cell.prefer preferred
where
  small? (cs : List Char) : Option Nat :=
    match cs with
    | '0' :: x :: rest =>
      if x.toLower = 'x' then
        let n := rest.foldl (fun n c => 16 * n + hexValue c) 0
        if n < 0x80000000 then some n else none
      else whole? cs
    | _ => whole? cs
  whole? (cs : List Char) : Option Nat :=
    if cs.all Char.isDigit then Affinity.smallNumber? cs else none
  hexValue (c : Char) : Nat :=
    if c.isDigit then c.toNat - '0'.toNat else c.toLower.toNat - 'a'.toNat + 10

end Literal

namespace Expr

variable {κ : Type}

/-- The value that an expression stands for in a column of an affinity, where it has to be known
without reading anything. Most expressions are not worked out. -/
def settled? (affinity : Affinity) : Expr κ → Option Cell
  | .literal .null => some .null
  | .literal (.integer digits) | .literal (.real digits) =>
    some (Literal.number affinity false digits)
  | .literal (.string bytes) => some ((Cell.text bytes).prefer affinity)
  | .literal (.blob bytes) => some (.blob bytes)
  | .positive e => settled? affinity e
  | .negative (.literal (.integer digits)) | .negative (.literal (.real digits)) =>
    some (Literal.number affinity true digits)
  | .negative e => (settled? affinity e).map fun c =>
      if c.isNull then c else (opposite c.toNumber).prefer affinity
  | .cast e type =>
    let own := Affinity.named type
    (settled? own e).map fun c => (c.cast own).prefer affinity
  | .name n => (truth? (Expr.name n : Expr κ)).map Cell.ofBool
  | _ => none

end Expr

end Motif.Sql
