import Motif.Sql.Flaw
import Motif.Sql.Token

/-!
Reading a statement from the front: each step takes tokens off, or tells at which token the
statement goes wrong.
-/

set_option autoImplicit false

namespace Motif.Sql

/-- The tokens that have not been taken yet, and the databases that tables are said to be in. -/
structure Reading where
  tokens : List Token
  databases : List String

abbrev Parser := StateT Reading (Except Flaw)

namespace Parser

variable {α : Type}

def tokens : Parser (List Token) := do return (← get).tokens

def look : Parser (Option Token) := do return (← tokens).head?

def skip : Parser Unit := modify fun r => { r with tokens := r.tokens.drop 1 }

def noteDatabase (name : String) : Parser Unit :=
  modify fun r => { r with databases := r.databases ++ [name] }

def unexpected : Parser α := do
  match ← look with
  | none => throw .incomplete
  | some t => throw (if t.kind = .illegal then .unrecognized t.text else .near t.text)

def nextIs (p : Token → Bool) : Parser Bool := do return (← look).any p

def accept (p : Token → Bool) : Parser Bool := do
  if ← nextIs p then
    skip
    return true
  else return false

def take (p : Token → Bool) : Parser Token := do
  match ← look with
  | some t =>
    if p t then
      skip
      return t
    else unexpected
  | none => unexpected

def acceptWord (word : String) : Parser Bool := accept (Token.isWord word)

def acceptMark (mark : String) : Parser Bool := accept (Token.isMark mark)

def word (w : String) : Parser Unit := discard (take (Token.isWord w))

def mark (m : String) : Parser Unit := discard (take (Token.isMark m))

def name : Parser String := do return (← take Token.isName).name

def acceptWords : List String → Parser Bool
  | [] => return true
  | w :: rest => do
    if ← acceptWord w then
      rest.forM word
      return true
    else return false

def several (first : List α) (more : Parser (Option α)) : Parser (List α) := do
  let rec go : Nat → List α → Parser (List α)
    | 0, found => return found.reverse
    | n + 1, found => do
      match ← more with
      | some a => go n (a :: found)
      | none => return found.reverse
  go ((← tokens).length + 1) first.reverse

def attempt (p : Parser α) : Parser (Except Flaw α) := fun r =>
  match p r with
  | .ok (a, rest) => .ok (.ok a, rest)
  | .error flaw => .ok (.error flaw, r)

/-- As many as there are, up to the first in which something is wrong. -/
def collect (first : List α) (more : Parser (Option α)) : Parser (List α × Option Flaw) := do
  let rec go : Nat → List α → Parser (List α × Option Flaw)
    | 0, found => return (found.reverse, none)
    | n + 1, found => do
      match ← attempt more with
      | .ok (some a) => go n (a :: found)
      | .ok none => return (found.reverse, none)
      | .error flaw => return (found.reverse, some flaw)
  go ((← tokens).length + 1) first.reverse

def commas (one : Parser α) : Parser (List α) := do
  several [← one] (do if ← acceptMark "," then return some (← one) else return none)

def inside (one : Parser α) : Parser α := do
  mark "("
  let found ← one
  mark ")"
  return found

def insideIf (one : Parser α) : Parser (Option α) := do
  if ← nextIs (Token.isMark "(") then return some (← inside one) else return none

def atWindows : Parser Bool := do
  match ← tokens with
  | a :: b :: c :: _ => return a.isWord "window" && b.isName && c.isWord "as"
  | _ => return false

/-- The name that something is given, with or without a word in front. Without it the name can be
none of the words that say how a table is joined or read. -/
def alias? : Parser (Option String) := do
  if ← acceptWord "as" then return some (← name)
  else if ← atWindows then return none
  else
    match ← look with
    | some t =>
      if (t.isId ∧ !t.isWord "indexed") ∨ t.kind = .string then
        skip
        return some t.name
      else return none
    | none => return none

def withTokens (p : Parser α) : Parser (α × List Token) := do
  let before ← tokens
  let found ← p
  return (found, before.take (before.length - (← tokens).length))

/-- Takes a type: names, and perhaps one or two numbers in parentheses. -/
def type : Parser (List Token) := do
  return (← withTokens typeName).2
where
  typeName : Parser Unit := do
    let names ← several [] (do
      if ← accept fun t => t.isId || t.kind == .string then return some () else return none)
    if !names.isEmpty then
      if ← acceptMark "(" then
        discard size
        if ← acceptMark "," then discard size
        mark ")"
  size : Parser Token := do
    unless ← acceptMark "-" do discard (acceptMark "+")
    take fun t => t.kind == .integer || t.kind == .real

def ended : Parser Unit := do
  unless (← look).isNone do
    unless ← nextIs (Token.isMark ";") do unexpected

def madeName : Parser Token := do
  discard (acceptWords ["if", "not", "exists"])
  let named ← take Token.isName
  if ← acceptMark "." then
    discard name
    throw .qualifiedName
  else return named

end Parser

end Motif.Sql
