import Motif.Database.Plan.Clause

/-!
What a pattern tells of the beginning of the texts that are like it, and so between which two they
are.
-/

set_option autoImplicit false

namespace Motif.Database

open Sql

/-- The signs of a language of patterns: the one that stands for any text comes first. -/
structure Beginning.Signs where
  wild : List Nat
  escape? : Option Nat
  /-- Letters are the same in either case. -/
  ignoresCase : Bool

/-- The beginning of all texts that are like a pattern. -/
structure Beginning where
  bytes : List Nat
  ignoresCase : Bool
  /-- Nothing else is asked of a text. -/
  isAll : Bool

namespace Beginning

/-- What is in front of the first sign that stands for something else, and what is behind it. What
the escape is in front of stands for itself. -/
def literal (signs : Signs) : List Nat → List Nat × List Nat
  | [] => ([], [])
  | c :: rest =>
    if signs.wild.contains c then ([], c :: rest)
    else if signs.escape? = some c then
      match rest with
      | d :: rest =>
        let (found, behind) := literal signs rest
        (d :: found, behind)
      | [] => ([c], [])
    else
      let (found, behind) := literal signs rest
      (c :: found, behind)

def isLoneEscape (signs : Signs) (pattern : List Nat) : Bool :=
  pattern.length = 1 && signs.escape?.any fun c => pattern.head? = some c

def next (bytes : List Nat) : List Nat :=
  match bytes.getLast? with
  | some c => bytes.dropLast ++ [c + 1]
  | none => []

def isNumber (bytes : List Nat) : Bool :=
  match (Number.real bytes).1 with
  | .integer | .decimal => true
  | .none | .front => false

def mixesWithNumbers (bytes : List Nat) : Bool :=
  isNumber bytes || bytes = [45] || isNumber (next bytes)

def ofPattern? (signs : Signs) (onlyTexts : Bool) (pattern : List Nat) : Option Beginning :=
  let pattern := pattern.takeWhile (· ≠ 0)
  let (bytes, behind) := literal signs pattern
  let isAll := behind.length = 1 && behind.head? = signs.wild.head?
  if bytes.isEmpty ∨ bytes.getLast? = some 255 ∨ isLoneEscape signs pattern then none
  else if !onlyTexts && mixesWithNumbers bytes then none
  else some ⟨bytes, signs.ignoresCase, isAll⟩

def upper (c : Nat) : Nat := if 97 ≤ c ∧ c ≤ 122 then c - 32 else c

def lower (c : Nat) : Nat := if 65 ≤ c ∧ c ≤ 90 then c + 32 else c

def low (b : Beginning) : List Nat := if b.ignoresCase then b.bytes.map upper else b.bytes

def high (b : Beginning) : List Nat := next (if b.ignoresCase then b.bytes.map lower else b.bytes)

def isExact (b : Beginning) : Bool :=
  b.isAll && !(b.ignoresCase && b.bytes.getLast? = some 64)

def collation (b : Beginning) : String := if b.ignoresCase then "nocase" else "binary"

def signs? (name : String) (arguments : List Meaning) : Option Signs :=
  match Token.lower name, arguments.drop 2 with
  | "like", [] => some ⟨[37, 95], none, true⟩
  | "like", [e] =>
    match e.operation with
    | .literal (.string [c]) =>
      if c = 0 ∨ c = 37 ∨ c = 95 then none else some ⟨[37, 95], some c, true⟩
    | _ => none
  | "glob", [] => some ⟨[42, 63, 91], none, false⟩
  | _, _ => none

def ofMeaning? (onlyTexts : Meaning → Bool) (e : Meaning) : Option (Meaning × Beginning) :=
  match e.operation, e.parts with
  | .call name, pattern :: text :: _ =>
    match (signs? name e.parts), pattern.uncollated.operation with
    | some signs, .literal (.string bytes) =>
      (ofPattern? signs (onlyTexts text) bytes).map fun b => (text, b)
    | _, _ => none
  | _, _ => none

end Beginning

end Motif.Database
