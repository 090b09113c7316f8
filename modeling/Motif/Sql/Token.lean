/-!
The tokens of a statement: words, quoted names, texts, numbers and marks. Blanks and comments stand
between them.
-/

set_option autoImplicit false

namespace Motif.Sql

inductive Kind where
  | word
  | quoted
  | string
  | blob
  | integer
  | real
  | variable
  | mark
  | illegal
deriving DecidableEq

/-- A token as it is written, with the blanks and comments in front of it. -/
structure Token where
  kind : Kind
  text : String
  gap : String
deriving DecidableEq

namespace Token

def isBlank (c : Char) : Bool := [' ', '\t', '\n', '\r', '\x0c'].contains c

def isWordChar (c : Char) : Bool :=
  c.isAlphanum || c == '_' || c == '$' || 0x80 ≤ c.toNat

def isHexDigit (c : Char) : Bool := c.isDigit || ('a' ≤ c.toLower && c.toLower ≤ 'f')

def run (isIn : Char → Bool) (cs : List Char) : Nat := (cs.takeWhile isIn).length

/-- How many characters a quoted text takes behind its opening quote. A quote inside of it is
written twice. -/
def closing? (quote : Char) : List Char → Option Nat
  | [] => none
  | [c] => if c = quote then some 1 else none
  | c :: d :: rest =>
    if c ≠ quote then (closing? quote (d :: rest)).map (· + 1)
    else if d = quote then (closing? quote rest).map (· + 2)
    else some 1

def commentLength : List Char → Nat
  | [] => 0
  | [_] => 1
  | c :: d :: rest => if c = '*' ∧ d = '/' then 2 else commentLength (d :: rest) + 1

def exponentLength (cs : List Char) : Nat :=
  match cs with
  | e :: rest =>
    if e.toLower ≠ 'e' then 0
    else
      let signed := if rest.headD ' ' = '+' ∨ rest.headD ' ' = '-' then 1 else 0
      let digits := run Char.isDigit (rest.drop signed)
      if digits = 0 then 0 else 1 + signed + digits
  | [] => 0

def numberAt (cs : List Char) : Kind × Nat :=
  let whole := run Char.isDigit cs
  let behind := cs.drop whole
  let fraction := if behind.headD ' ' = '.' then 1 + run Char.isDigit (behind.drop 1) else 0
  let exponent := exponentLength (behind.drop fraction)
  let size := whole + fraction + exponent
  let more := run isWordChar (cs.drop size)
  if 0 < more then (.illegal, size + more)
  else if fraction + exponent = 0 then (.integer, size)
  else (.real, size)

def blobAt (digits : List Char) : Kind × Nat :=
  let count := run isHexDigit digits
  if (digits.drop count).headD ' ' = '\'' ∧ count % 2 = 0 then (.blob, count + 3)
  else
    let more := run (· ≠ '\'') digits
    (.illegal, min (more + 3) (digits.length + 2))

def quotedAt (c : Char) (cs : List Char) : Kind × Nat :=
  match if c = '[' then (cs.idxOf? ']').map (· + 1) else closing? c cs with
  | some size => (if c = '\'' then .string else .quoted, size + 1)
  | none => (.illegal, cs.length + 1)

def longMarks : List (List Char) := ["==", "<=", "<>", "<<", ">=", ">>", "!=", "||"].map String.toList

def shortMarks : List Char := "();+*%,&~=<>|-/.".toList

/-- The kind and the size of what the characters begin with; blanks and comments have none. -/
def first (cs : List Char) : Option Kind × Nat :=
  let kept (found : Kind × Nat) : Option Kind × Nat := (some found.1, found.2)
  match cs with
  | [] => (none, 0)
  | c :: rest =>
    let second := rest.headD ' '
    if isBlank c then (none, run isBlank cs)
    else if c = '-' ∧ second = '-' then (none, run (· ≠ '\n') cs)
    else if c = '/' ∧ second = '*' ∧ 1 < rest.length then (none, 2 + commentLength (rest.drop 1))
    else if ['"', '\'', '\x60', '['].contains c then kept (quotedAt c rest)
    else if c.toLower = 'x' ∧ second = '\'' then kept (blobAt (rest.drop 1))
    else if c = '0' ∧ second.toLower = 'x' ∧ isHexDigit ((rest.drop 1).headD ' ') then
      (some .integer, 2 + run isHexDigit (rest.drop 1))
    else if c.isDigit ∨ (c = '.' ∧ second.isDigit) then kept (numberAt cs)
    else if c = '?' then (some .variable, 1 + run Char.isDigit rest)
    else if ['$', '@', '#', ':'].contains c then
      let size := run isWordChar rest
      (some (if size = 0 then .illegal else .variable), 1 + size)
    else if isWordChar c then (some .word, run isWordChar cs)
    else if longMarks.contains [c, second] then (some .mark, 2)
    else (some (if shortMarks.contains c then .mark else .illegal), 1)

def scan (gap : List Char) (cs : List Char) : List Token :=
  match cs with
  | [] => []
  | c :: rest =>
    let (kind?, size) := first (c :: rest)
    let read := c :: rest.take (size - 1)
    let behind := rest.drop (size - 1)
    match kind? with
    | none => scan (gap ++ read) behind
    | some kind => ⟨kind, String.ofList read, String.ofList gap⟩ :: scan [] behind
termination_by cs.length
decreasing_by all_goals simp only [List.length_drop, List.length_cons]; omega

def ofString (text : String) : List Token := scan [] text.toList

def spelling : List Token → String
  | [] => ""
  | t :: rest => t.text ++ String.join (rest.map fun t => t.gap ++ t.text)

def lower (text : String) : String := String.ofList (text.toList.map Char.toLower)

def isWord (word : String) (t : Token) : Bool := t.kind == .word && lower t.text == word

def isMark (mark : String) (t : Token) : Bool := t.kind == .mark && t.text == mark

def unquote (close : Char) : List Char → List Char
  | [] => []
  | [c] => if c = close then [] else [c]
  | c :: d :: rest =>
    if c ≠ close then c :: unquote close (d :: rest)
    else if d = close ∧ c ≠ ']' then c :: unquote close rest
    else []

def bare (text : String) : String :=
  match text.toList with
  | '[' :: rest => String.ofList (unquote ']' rest)
  | c :: rest =>
    if ['"', '\'', '\x60'].contains c then String.ofList (unquote c rest) else text
  | [] => text

def reserved : List String :=
  ["add", "all", "alter", "and", "as", "autoincrement", "between", "case", "check", "collate",
    "commit", "constraint", "create", "default", "deferrable", "delete", "distinct", "drop",
    "else", "escape", "except", "exists", "foreign", "from", "group", "having", "in", "index",
    "insert", "intersect", "into", "is", "isnull", "join", "limit", "not", "nothing", "notnull",
    "null", "on", "or", "order", "primary", "references", "returning", "select", "set", "table",
    "then", "to", "transaction", "union", "unique", "update", "using", "values", "when", "where"]

def joinWords : List String := ["cross", "full", "inner", "left", "natural", "outer", "right"]

def isId (t : Token) : Bool :=
  t.kind == .quoted ||
    (t.kind == .word && !reserved.contains (lower t.text) && !joinWords.contains (lower t.text))

def isName (t : Token) : Bool :=
  t.isId || t.kind == .string || (t.kind == .word && joinWords.contains (lower t.text))

def trimmed (text : String) : String :=
  let front := text.toList.dropWhile isBlank
  String.ofList (front.reverse.dropWhile isBlank).reverse

def name (t : Token) : String := bare t.text

end Token

end Motif.Sql
