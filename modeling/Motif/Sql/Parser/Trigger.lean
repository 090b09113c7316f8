import Motif.Sql.Parser.Term
import Motif.Sql.Statement

/-!
Reading what is done when a table changes. None of it is ever done where rows are only read, but it
has to be written well.
-/

set_option autoImplicit false

namespace Motif.Sql.Parser

def timing : Parser Timing := do
  if ← acceptWord "after" then return .after
  else if ← acceptWords ["instead", "of"] then return .instead
  else
    discard (acceptWord "before")
    return .before

def change : Parser Unit := do
  unless ← accept (isOneOf ["delete", "insert"]) do
    word "update"
    if ← acceptWord "of" then discard (commas name)

def condition : Parser Unit := do
  if ← acceptWord "where" then discard wholeExpression

def changed : Parser Unit := do
  discard name
  if ← acceptMark "." then
    discard name
    throw .triggerQualified

def noIndex : Parser Unit := do
  if ← acceptWords ["indexed", "by"] then
    discard name
    throw (.triggerIndexed "INDEXED BY")
  else if ← acceptWords ["not", "indexed"] then throw (.triggerIndexed "NOT INDEXED")

def settings : Parser Unit :=
  discard (commas do
    if ← nextIs (Token.isMark "(") then discard (inside (commas name)) else discard name
    discard (take fun t => t.isMark "=" || t.isMark "==")
    discard wholeExpression)

def resolution : Parser Unit := do
  if ← acceptWord "or" then
    discard (take (isOneOf ["rollback", "abort", "fail", "ignore", "replace"]))

def upsert : Parser Unit := do
  discard (several [] (do
    if ← acceptWords ["on", "conflict"] then
      if ← nextIs (Token.isMark "(") then
        discard (inside (commas wholeOrderTerm))
        condition
      word "do"
      unless ← acceptWord "nothing" do
        word "update"
        word "set"
        settings
        condition
      return some ()
    else return none))
  if ← acceptWord "returning" then throw .triggerReturning

def action : Parser Unit := do
  if ← acceptWord "update" then
    resolution
    changed
    noIndex
    word "set"
    settings
    if ← acceptWord "from" then discard wholeJoin
    condition
  else if ← acceptWords ["delete", "from"] then
    changed
    noIndex
    condition
  else if ← nextIs (isOneOf ["insert", "replace"]) then
    unless ← acceptWord "replace" do
      word "insert"
      resolution
    word "into"
    changed
    discard (insideIf (commas name))
    discard wholeQuery
    upsert
  else discard wholeQuery
  mark ";"

def actions : Parser Unit := do
  word "begin"
  action
  discard (several [] (do
    if ← nextIs (Token.isWord "end") then return none
    else
      action
      return some ()))
  word "end"
  ended

def trigger : Parser TriggerText := do
  let named ← madeName
  let timing ← timing
  change
  word "on"
  let first ← name
  let (database?, table) ← if ← acceptMark "." then pure (some first, ← name) else pure (none, first)
  discard (acceptWords ["for", "each", "row"])
  if ← acceptWord "when" then discard wholeExpression
  let done ← attempt do
    actions
    return (← get).databases
  return ⟨named.name, named.text, timing, database?, table, done⟩

end Motif.Sql.Parser
