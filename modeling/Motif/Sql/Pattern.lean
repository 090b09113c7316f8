/-!
Patterns for texts. A character is given by its bytes.
-/

set_option autoImplicit false

namespace Motif.Sql.Pattern

abbrev Character := List Nat

def characters (text : List Nat) : List Character :=
  let (follows, found) := text.foldr (fun b (follows, found) =>
    if b / 64 = 2 then (b :: follows, found)
    else if 0xc0 ≤ b then ([], (b :: follows) :: found)
    else ([], [b] :: (follows.map ([·]) ++ found))) ([], [])
  follows.map ([·]) ++ found

def lower (c : Character) : Character :=
  match c with
  | [b] => if 65 ≤ b ∧ b ≤ 90 then [b + 32] else c
  | _ => c

def suffixes : List Character → List (List Character)
  | [] => [[]]
  | c :: rest => (c :: rest) :: suffixes rest

def percent : Character := [37]

def underscore : Character := [95]

/-- Whether a text is like a pattern: `%` stands for any characters and `_` for one, unless the
escape is in front. Letters match in either case. -/
def like (escape : Option Character) : List Character → List Character → Bool
  | [], text => text.isEmpty
  | p :: pattern, text =>
    if some p = escape then
      match pattern, text with
      | q :: pattern, c :: text => lower q == lower c && like escape pattern text
      | _, _ => false
    else if p = percent then (suffixes text).any fun text => like escape pattern text
    else
      match text with
      | [] => false
      | c :: text => (p = underscore || lower p == lower c) && like escape pattern text

/-- Whether a character is in a set, which is given by what follows the opening bracket, and what
follows the set. A closing bracket that comes first is a member. -/
def inSet (c : Character) (isFirst : Bool) (pattern : List Character) :
    Option (Bool × List Character) :=
  match pattern with
  | [] => none
  | p :: rest =>
    let high := (rest.drop 1).headD [93]
    if p = [93] ∧ !isFirst then some (false, rest)
    else if rest.head? = some [45] ∧ high ≠ [93] then
      (inSet c false (rest.drop 2)).map fun found => (found.1 || (!(c < p) && !(high < c)), found.2)
    else (inSet c false rest).map fun found => (found.1 || p == c, found.2)
termination_by pattern.length
decreasing_by all_goals simp only [List.length_drop, List.length_cons]; omega

/-- Whether a character is in the set at the front of a pattern behind its bracket, and what follows
the set. -/
def set (c : Character) (pattern : List Character) : Option (Bool × List Character) :=
  match pattern with
  | p :: rest =>
    if p = [94] then (inSet c true rest).map fun found => (!found.1, found.2)
    else inSet c true (p :: rest)
  | [] => none

/-- Whether a text matches a pattern: `*` stands for any characters, `?` for one, and brackets for
one of a set. Goes on for as many steps as are given. -/
def glob : Nat → List Character → List Character → Bool
  | 0, _, _ => false
  | _ + 1, [], text => text.isEmpty
  | n + 1, p :: pattern, text =>
    if p = [42] then (suffixes text).any fun text => glob n pattern text
    else
      match text with
      | [] => false
      | c :: text =>
        if p = [63] then glob n pattern text
        else if p = [91] then
          match set c pattern with
          | some (found, behind) => found && glob n behind text
          | none => false
        else p == c && glob n pattern text

end Motif.Sql.Pattern
