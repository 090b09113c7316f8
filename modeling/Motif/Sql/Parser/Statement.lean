import Motif.Sql.Parser.Trigger

/-!
Reading the statements that make tables, indexes and views.
-/

set_option autoImplicit false

namespace Motif.Sql.Parser

def constant : Parser Term := do
  match ← look with
  | none => unexpected
  | some t =>
    match literal? t with
    | some value =>
      skip
      return .literal value
    | none =>
      if isOneOf timeWords t then
        skip
        return .call t.text false (some []) none none
      else unexpected

/-- Reads what follows `default`. A word is a text, unless it is a constant by itself. -/
def default : Parser Term := do
  if ← acceptMark "-" then return .negative (← constant)
  else if ← acceptMark "+" then return .positive (← constant)
  else if ← nextIs (Token.isMark "(") then inside wholeExpression
  else
    match ← look with
    | some t =>
      if t.isId ∧ !isOneOf timeWords t then
        skip
        let isConstant := t.isWord "true" ∨ t.isWord "false"
        return if isConstant then .name ⟨[], t.text, false, false⟩
          else .literal (.string (bytesOf t.name))
      else constant
    | none => unexpected

def conflict : Parser (Option String) := do
  if ← acceptWords ["on", "conflict"] then
    let t ← take (isOneOf ["rollback", "abort", "fail", "ignore", "replace"])
    return some (Token.lower t.text)
  else return none

def reaction : Parser Unit := do
  if ← acceptWord "set" then discard (take (isOneOf ["null", "default"]))
  else if ← acceptWord "no" then word "action"
  else discard (take (isOneOf ["cascade", "restrict"]))

def deferral : Parser Unit := do
  if ← acceptWord "initially" then discard (take (isOneOf ["deferred", "immediate"]))

def reference : Parser (String × List String) := do
  let table ← name
  let columns ← nameList
  discard (several [] (do
    if ← acceptWord "match" then
      discard name
      return some ()
    else if ← acceptWord "on" then
      discard (take (isOneOf ["insert", "delete", "update"]))
      reaction
      return some ()
    else return none))
  return (table, columns)

def generated : Parser ColumnRule := do
  let value ← inside wholeExpression
  match ← look with
  | some t =>
    if t.kind = .quoted ∨ (t.kind = .word ∧ t.isId) then
      skip
      return .generated value (some t.text)
    else return .generated value none
  | none => return .generated value none

/-- Reads a rule of a column. -/
def columnRule? : Parser (Option ColumnRule) := do
  if ← acceptWord "constraint" then
    discard name
    return some .other
  else if ← acceptWord "default" then return some (.default (← default))
  else if ← acceptWord "null" then
    discard conflict
    return some .other
  else if ← acceptWord "not" then
    if ← acceptWord "deferrable" then
      deferral
      return some .other
    else
      word "null"
      discard conflict
      return some .notNull
  else if ← acceptWords ["primary", "key"] then
    let descending ← direction
    let conflict? ← conflict
    return some (.primaryKey descending (← acceptWord "autoincrement") conflict?)
  else if ← acceptWord "unique" then return some (.unique (← conflict))
  else if ← acceptWord "check" then return some (.check (← inside wholeExpression))
  else if ← acceptWord "references" then
    let (table, columns) ← reference
    return some (.references table columns)
  else if ← acceptWord "deferrable" then
    deferral
    return some .other
  else if ← acceptWord "collate" then
    return some (.collate (← take fun t => t.isId || t.kind == .string).name)
  else if ← acceptWords ["generated", "always", "as"] then return some (← generated)
  else if ← acceptWord "as" then return some (← generated)
  else return none

def column : Parser (ColumnText × Option Flaw) := do
  let named ← name
  let type ← Parser.type
  let (rules, flaw?) ← collect [] columnRule?
  return (⟨named, Token.bare (Token.spelling type), rules⟩, flaw?)

def sortList : Parser (List (Order Term)) := commas wholeOrderTerm

/-- Reads a rule of a table. -/
def tableRule? : Parser (Option TableRule) := do
  if ← acceptWord "constraint" then
    discard name
    return some .other
  else if ← acceptWords ["primary", "key"] then
    let (key, counts) ← inside do
      let key ← sortList
      return (key, ← acceptWord "autoincrement")
    return some (.primaryKey key counts (← conflict))
  else if ← acceptWord "unique" then
    let key ← inside sortList
    return some (.unique key (← conflict))
  else if ← acceptWord "check" then
    let condition ← inside wholeExpression
    discard conflict
    return some (.check condition)
  else if ← acceptWords ["foreign", "key"] then
    unless ← nextIs (Token.isMark "(") do unexpected
    let columns ← nameList
    word "references"
    let (table, others) ← reference
    if ← acceptWords ["not", "deferrable"] then deferral
    else if ← acceptWord "deferrable" then deferral
    return some (.foreign columns table others)
  else return none

def beginsTableRule : Token → Bool :=
  isOneOf ["constraint", "primary", "unique", "check", "foreign"]

def atColumn : Parser Bool := do
  match ← tokens with
  | comma :: next :: _ => return comma.isMark "," && !beginsTableRule next
  | [comma] => return comma.isMark ","
  | [] => return false

/-- Reads the columns of a table. Rules of the table may follow a comma. -/
def columns : Nat → List ColumnText → Parser (List ColumnText × Option Flaw)
  | 0, found => return (found.reverse, none)
  | n + 1, found => do
    match ← attempt column with
    | .error flaw => return (found.reverse, some flaw)
    | .ok (c, some flaw) => return ((c :: found).reverse, some flaw)
    | .ok (c, none) =>
      if ← atColumn then
        skip
        columns n (c :: found)
      else return ((c :: found).reverse, none)

/-- Reads the rules of a table behind a comma. Commas between them can be left out. -/
def tableRules : Parser (List TableRule × Option Flaw) := do
  if ← nextIs (Token.isMark ",") then
    collect [] (do
      if ← acceptMark "," then
        match ← tableRule? with
        | some rule => return some rule
        | none => unexpected
      else tableRule?)
  else return ([], none)

def tableOption : Parser (Option String) := do
  let option? ← if ← acceptWord "without" then pure (some (← name)) else pure none
  ended
  return option?

/-- Reads the columns and rules of a table. What is wrong at a token counts more than what the
things in front of it say, but less than those before. -/
def tableText : Parser TableText := do
  mark "("
  match ← columns ((← tokens).length + 1) [] with
  | (columns, some flaw) => return ⟨columns, [], none, some flaw⟩
  | (columns, none) =>
    match ← tableRules with
    | (rules, some flaw) => return ⟨columns, rules, none, some flaw⟩
    | (rules, none) =>
      match ← attempt (mark ")") with
      | .error flaw => return (TableText.dropLast ⟨columns, rules, none, some flaw⟩)
      | .ok () =>
        match ← attempt tableOption with
        | .error flaw => return ⟨columns, rules, none, some flaw⟩
        | .ok option? => return ⟨columns, rules, option?, none⟩

def table : Parser Statement := do
  let named ← madeName
  if ← acceptWord "as" then
    discard wholeQuery
    ended
    return .tableOf named.name
  else return .table named.name named.text (← tableText)

def index (isUnique : Bool) : Parser Statement := do
  let named ← madeName
  word "on"
  let table ← name
  let key ← inside sortList
  let condition? ← if ← acceptWord "where" then pure (some (← wholeExpression)) else pure none
  return .index isUnique named.name table key condition?

def view : Parser Statement := do
  let named ← madeName
  let columns ← nameList
  word "as"
  let (query, spelled) ← withTokens wholeQuery
  if spelled.any fun t => t.kind = .variable then
    ended
    throw .parameterInView
  return .view named.name named.text columns (← get).databases query

/-- The tokens up to the parenthesis that closes, in parts with commas between them. -/
def parts : Nat → List Token → List Token → Parser (List (List Token))
  | 0, _, _ => unexpected
  | n + 1, part, opened => do
    match ← look with
    | none => unexpected
    | some t =>
      if t.isMark ")" ∧ opened.isEmpty then return [part]
      else
        skip
        if t.isMark "," ∧ opened.isEmpty then return part :: (← parts n [] [])
        else if t.isMark "(" then parts n (part ++ [t]) (t :: opened)
        else if t.isMark ")" then parts n (part ++ [t]) (opened.drop 1)
        else parts n (part ++ [t]) opened

def virtual : Parser Statement := do
  let named ← madeName
  word "using"
  let module ← name
  let arguments ←
    if ← nextIs (Token.isMark "(") then inside do parts ((← tokens).length + 1) [] [] else pure []
  let spelled := (arguments.filter fun part => !part.isEmpty).map Token.spelling
  return .virtual named.name named.text module spelled

def made : Parser Statement := do
  word "create"
  let isTransient ← accept (isOneOf ["temp", "temporary"])
  if ← acceptWord "trigger" then return .trigger (← trigger)
  else if ← acceptWord "table" then table
  else if ← acceptWord "view" then view
  else if isTransient then unexpected
  else if ← acceptWord "index" then index false
  else if ← acceptWords ["unique", "index"] then index true
  else if ← acceptWords ["virtual", "table"] then virtual
  else unexpected

def statement : Parser Statement := do
  let found ← made
  match found with
  | .trigger _ | .table .. => return found
  | _ =>
    ended
    return found

end Parser

def Statement.ofString (text : String) : Except Flaw Statement := do
  return (← Parser.statement.run ⟨Token.ofString text, []⟩).1

end Motif.Sql
