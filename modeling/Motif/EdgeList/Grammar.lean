import Motif.EdgeList.Scan

/-!
The grammar of edge lists, written down as it is declared, and what it means. Its expressions are those
of parsing expression grammars: a choice takes the first branch that matches, a repetition takes as much
as it can, and neither is revised later. Between the parts of a sequence and the rounds of a repetition a
grammar passes over blanks and comments without saying so; inside a word it does not.

The scanner reads the same texts in one loop.
-/

set_option autoImplicit false

namespace Motif.EdgeList

/-- The rules that leave a pair behind. -/
inductive Rule where
  | int
  | edge
  | endOfInput
deriving DecidableEq

/-- What a rule has matched: the characters, the text from the first of them on, and the pairs of the
rules it is made of. -/
inductive Pair where
  | matched (rule : Rule) (lexeme place : List Char) (inner : List Pair)

inductive Peg where
  | one (accepts : Char → Bool)
  | chars (cs : List Char)
  | seq (first second : Peg)
  | choice (first second : Peg)
  | optional (e : Peg)
  | many (e : Peg)
  | no (e : Peg)
  | beginning
  | ending
  | rule (name : Rule) (e : Peg)

namespace Peg

/-- The pairs that a match leaves behind, and the text behind it. -/
abbrev Matched := List Pair × List Char

/-- Matches as often as it can. A round that passes nothing would be repeated for ever; it ends the
repetition here, and no grammar that is fit for use has one. -/
def repeated (run : List Char → Option Matched) (cs : List Char) : Matched :=
  match run cs with
  | none => ([], cs)
  | some (pairs, rest) =>
    if rest.length < cs.length then
      let (more, behind) := repeated run rest
      (pairs ++ more, behind)
    else ([], cs)
termination_by cs.length

/-- Matches an expression at the front of what is left of a text. -/
def run (text : List Char) : Peg → List Char → Option Matched
  | .one accepts, cs =>
    match cs with
    | [] => none
    | c :: rest => if accepts c then some ([], rest) else none
  | .chars front, cs => if front.isPrefixOf cs then some ([], cs.drop front.length) else none
  | .seq first second, cs => do
    let (pairs, rest) ← first.run text cs
    let (more, behind) ← second.run text rest
    return (pairs ++ more, behind)
  | .choice first second, cs =>
    match first.run text cs with
    | some m => some m
    | none => second.run text cs
  | .optional e, cs => some ((e.run text cs).getD ([], cs))
  | .many e, cs => some (repeated (e.run text) cs)
  | .no e, cs => if (e.run text cs).isSome then none else some ([], cs)
  | .beginning, cs => if cs.length = text.length then some ([], cs) else none
  | .ending, cs => if cs.isEmpty then some ([], cs) else none
  | .rule name e, cs => do
    let (pairs, rest) ← e.run text cs
    return ([.matched name (cs.take (cs.length - rest.length)) cs pairs], rest)

end Peg

namespace Grammar

open Peg

def newline : Peg := .choice (.chars ['\n']) (.choice (.chars ['\r', '\n']) (.chars ['\r']))

def digit : Peg := .one Char.isDigit

def whitespace : Peg := .choice (.chars [' ']) (.chars ['\t'])

def comment : Peg := .seq (.chars ['#']) (.many (.seq (.no newline) (.one fun _ => true)))

/-- What is passed over between two parts. -/
def gap : Peg := .seq (.many whitespace) (.many (.seq comment (.many whitespace)))

/-- One part and then another, with a gap between them. -/
def spaced (first second : Peg) : Peg := .seq first (.seq gap second)

/-- A part again and again, with gaps between the rounds. -/
def rounds (e : Peg) : Peg := .optional (.seq e (.many (.seq gap e)))

def int : Peg := .rule .int (.seq (.optional (.chars ['-'])) (.seq digit (.many digit)))

def edge : Peg := .rule .edge (spaced int (spaced (.optional (.chars [','])) int))

def edgeList : Peg :=
  spaced .beginning (spaced (rounds (spaced (.optional edge) newline))
    (spaced (.optional edge) (.rule .endOfInput .ending)))

end Grammar

/-- The entry of a pair: an edge has one, made of the two integers inside it, and the end of the input
none. There are no other pairs in a match of an edge list. -/
def Pair.entries? : Pair → Option (List Entry)
  | .matched .edge _ _ [.matched .int src place [], .matched .int dst place' []] =>
    some [⟨⟨src, place⟩, ⟨dst, place'⟩⟩]
  | .matched .endOfInput _ _ [] => some []
  | _ => none

namespace Grammar

/-- The entries of some pairs, in order. -/
def entries? (pairs : List Pair) : Option (List Entry) :=
  (pairs.mapM Pair.entries?).map List.flatten

/-- The entries of a text that is an edge list by the grammar. -/
def read? (text : List Char) : Option (List Entry) :=
  (edgeList.run text text).bind fun m => entries? m.1

end Grammar

end Motif.EdgeList
