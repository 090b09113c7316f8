import Motif.Text.Diagnostic

/-!
The lines of an edge list. A line holds nothing, or two integers with at most one comma between
them; blanks may stand before, between and after, and a comment runs from a number sign to the
end of its line. Integers are kept as they are written.

A text that breaks these rules is refused at the furthest place where an integer or the end of
the text could have stood.
-/

set_option autoImplicit false

namespace Motif.EdgeList

open Text

def isBlank (c : Char) : Bool := c = ' ' || c = '\t'

def isLineEnd (c : Char) : Bool := c = '\n' || c = '\r'

/-- Skips blanks, and a comment up to the end of its line. -/
def skip : List Char → List Char
  | [] => []
  | c :: cs =>
    if isBlank c then skip cs
    else if c = '#' then cs.dropWhile (!isLineEnd ·)
    else c :: cs

theorem skip_length_le (cs : List Char) : (skip cs).length ≤ cs.length := by
  fun_induction skip cs with
  | case1 => exact Nat.le_refl _
  | case2 c cs hb ih => simp only [List.length_cons]; omega
  | case3 cs _ =>
    have := (List.dropWhile_suffix (l := cs) (!isLineEnd ·)).length_le
    simp only [List.length_cons]
    omega
  | case4 => exact Nat.le_refl _

/-- An integer as it is written, with the text from its first character on. -/
structure Numeral where
  lexeme : List Char
  place : List Char
deriving DecidableEq

namespace Numeral

def digits (cs : List Char) : List Char := cs.takeWhile Char.isDigit

/-- The integer at the front of a text, as many digits as there are after an optional sign, and
the text behind it. -/
def read? (cs : List Char) : Option (Numeral × List Char) :=
  let unsigned := if cs.head? = some '-' then cs.tail else cs
  let sign := if cs.head? = some '-' then ['-'] else []
  if (digits unsigned).isEmpty then none
  else some (⟨sign ++ digits unsigned, cs⟩, unsigned.dropWhile Char.isDigit)

theorem read?_length_le {cs rest : List Char} {n : Numeral} (h : read? cs = some (n, rest)) :
    rest.length ≤ cs.length := by
  unfold read? at h
  simp only [Option.ite_none_left_eq_some, Option.some.injEq, Prod.mk.injEq] at h
  obtain ⟨_, _, h⟩ := h
  rw [← h]
  refine Nat.le_trans (List.dropWhile_suffix _).length_le ?_
  split
  · simp
  · exact Nat.le_refl _

/-- The number that decimal digits write. -/
def magnitude (ds : List Char) : Nat :=
  ds.foldl (fun n d => 10 * n + (d.toNat - '0'.toNat)) 0

def value (n : Numeral) : Int :=
  if n.lexeme.head? = some '-' then -Int.ofNat (magnitude n.lexeme.tail)
  else Int.ofNat (magnitude n.lexeme)

end Numeral

/-- The two ids of an edge as they are written. -/
structure Entry where
  src : Numeral
  dst : Numeral
deriving DecidableEq

/-- Where a text breaks the rules: the text from there on, and what is missing. -/
structure Misfit where
  place : List Char
  complaint : Complaint
deriving DecidableEq

def skipComma (cs : List Char) : List Char := if cs.head? = some ',' then cs.tail else cs

theorem skipComma_length_le (cs : List Char) : (skipComma cs).length ≤ cs.length := by
  unfold skipComma
  split
  · simp
  · exact Nat.le_refl _

/-- Reads the edge of a line, if it has one; behind it the line or the text has to end. -/
def entry (cs : List Char) : Except Misfit (Option Entry × List Char) :=
  match Numeral.read? (skip cs) with
  | none => .ok (none, skip cs)
  | some (src, rest) =>
    let between := skip (skipComma (skip rest))
    match Numeral.read? between with
    | none => .error ⟨between, .expectedInteger⟩
    | some (dst, rest) => .ok (some ⟨src, dst⟩, skip rest)

theorem entry_length_le {cs rest : List Char} {e : Option Entry}
    (h : entry cs = .ok (e, rest)) : rest.length ≤ cs.length := by
  have hs := skip_length_le cs
  unfold entry at h
  split at h
  · simp only [Except.ok.injEq, Prod.mk.injEq] at h
    rw [← h.2]
    exact hs
  · rename_i src rest₁ h₁
    dsimp only at h
    split at h
    · simp at h
    · rename_i dst rest₂ h₂
      simp only [Except.ok.injEq, Prod.mk.injEq] at h
      rw [← h.2]
      have := Numeral.read?_length_le h₁
      have := Numeral.read?_length_le h₂
      have := skip_length_le rest₁
      have := skipComma_length_le (skip rest₁)
      have := skip_length_le (skipComma (skip rest₁))
      have := skip_length_le rest₂
      omega

/-- The text behind the line end at the front: a line feed, a carriage return, or both in this
order. -/
def lineEnd? : List Char → Option (List Char)
  | '\r' :: '\n' :: rest => some rest
  | '\n' :: rest => some rest
  | '\r' :: rest => some rest
  | _ => none

theorem lineEnd?_length_lt {cs rest : List Char} (h : lineEnd? cs = some rest) :
    rest.length < cs.length := by
  unfold lineEnd? at h
  split at h
  · simp only [Option.some.injEq] at h
    subst h
    simp only [List.length_cons]
    omega
  · simp only [Option.some.injEq] at h
    simp [h]
  · simp only [Option.some.injEq] at h
    simp [h]
  · simp at h

/-- Reads lines to the end of the text; `done` are the entries before them, latest first. -/
def scanFrom (done : List Entry) (cs : List Char) : Except Misfit (List Entry) :=
  match _he : entry cs with
  | .error misfit => .error misfit
  | .ok (e, rest) =>
    let entries := e.toList ++ done
    match _hl : lineEnd? rest with
    | some more => scanFrom entries more
    | none =>
      if rest.isEmpty then .ok entries.reverse
      else .error ⟨rest, if e.isSome then .expectedEnd else .expectedEndOrInteger⟩
termination_by cs.length
decreasing_by
  have := entry_length_le _he
  have := lineEnd?_length_lt _hl
  omega

def scan (cs : List Char) : Except Misfit (List Entry) := scanFrom [] cs

end Motif.EdgeList
