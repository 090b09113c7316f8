import Motif.Sql.Constant
import Motif.Sql.Parser
import Motif.Sql.Window

/-!
Reading expressions and queries. Operators bind by levels, the tighter the higher; those of one
level group to the left.
-/

set_option autoImplicit false

namespace Motif.Sql.Parser

def isZero : Term → Bool
  | .literal (.integer digits) =>
    match digits.toList with
    | '0' :: x :: rest => ((x :: rest).drop (if x.toLower = 'x' then 1 else 0)).all (· = '0')
    | cs => cs == ['0']
  | _ => false

def conjunction (a b : Term) : Term :=
  if isZero a ∨ isZero b then .literal (.integer "0") else .and a b

def isRegister (text : String) : Bool :=
  match text.toList with
  | '#' :: c :: _ => c.isDigit
  | _ => false

def identity (isNegated : Bool) (a : Term) : Term → Term
  | .literal .null => if isNegated then .notNull a else .isNull a
  | b => .compare (if isNegated then .distinct else .same) a b

/-- An operator between two expressions, with its level. -/
def operator? (t : Token) : Option (Nat × (Term → Term → Term)) :=
  match t.kind, Token.lower t.text with
  | .word, "or" => some (1, .or)
  | .word, "and" => some (2, conjunction)
  | .mark, "=" | .mark, "==" => some (4, .compare .equal)
  | .mark, "<>" | .mark, "!=" => some (4, .compare .different)
  | .mark, "<" => some (5, .compare .less)
  | .mark, "<=" => some (5, .compare .atMost)
  | .mark, ">" => some (5, .compare .greater)
  | .mark, ">=" => some (5, .compare .atLeast)
  | .mark, "&" => some (7, .arithmetic .bitAnd)
  | .mark, "|" => some (7, .arithmetic .bitOr)
  | .mark, "<<" => some (7, .arithmetic .shiftLeft)
  | .mark, ">>" => some (7, .arithmetic .shiftRight)
  | .mark, "+" => some (8, .arithmetic .add)
  | .mark, "-" => some (8, .arithmetic .subtract)
  | .mark, "*" => some (9, .arithmetic .multiply)
  | .mark, "/" => some (9, .arithmetic .divide)
  | .mark, "%" => some (9, .arithmetic .remainder)
  | .mark, "||" => some (10, .arithmetic .join)
  | _, _ => none

def testLevel : Nat := 4

def collateLevel : Nat := 11

def aboveTests : Nat := testLevel + 1

def patternWords : List String := ["like", "glob", "regexp", "match"]

def timeWords : List String := ["current_time", "current_date", "current_timestamp"]

def isOneOf (words : List String) (t : Token) : Bool := words.any fun w => t.isWord w

def qualified : Parser (Option String × String) := do
  let first ← name
  if ← acceptMark "." then
    noteDatabase first
    return (some first, ← name)
  else return (none, first)

def startsQuery : Token → Bool := isOneOf ["select", "with", "values"]

def bytesOf (text : String) : List Nat := text.toUTF8.toList.map UInt8.toNat

def hexValue (c : Char) : Nat :=
  if c.isDigit then c.toNat - '0'.toNat else c.toLower.toNat - 'a'.toNat + 10

def bytesOfHex : List Char → List Nat
  | a :: b :: rest => (16 * hexValue a + hexValue b) :: bytesOfHex rest
  | _ => []

def literal? (t : Token) : Option Literal :=
  match t.kind with
  | .integer => some (.integer t.text)
  | .real => some (.real t.text)
  | .string => some (.string (bytesOf t.name))
  | .blob => some (.blob (bytesOfHex ((t.text.toList.drop 2).dropLast)))
  | .word => if t.isWord "null" then some .null else none
  | _ => none

def negateIf (negated : Bool) (e : Term) : Term := if negated then .not e else e

def amongOf (e : Term) (list : List Term) : Term :=
  let isRow : Bool := match e with
    | .row _ => true
    | _ => false
  match list with
  | [only] => if only.isFixed ∧ !isRow then .compare .equal e (.positive only) else .among e list
  | _ => .among e list

def dotted (first : Token) : Parser Term := do
  if ← acceptMark "." then
    let second ← name
    if ← acceptMark "." then
      return .name ⟨[first.name, second], ← name, false, true⟩
    else return .name ⟨[first.name], second, false, true⟩
  else
    return .name ⟨[], first.name, first.text.startsWith "\"", first.kind == .quoted⟩

def compound? : Parser (Option Compound) := do
  if ← acceptWord "union" then
    if ← acceptWord "all" then return some .unionAll else return some .union
  else if ← acceptWord "except" then return some .except
  else if ← acceptWord "intersect" then return some .intersect
  else return none

/-- How the next table of a join is joined. -/
structure Joint where
  isNatural : Bool
  keepsLeft : Bool
  isFixed : Bool

def Joint.plain : Joint := ⟨false, false, false⟩

def joint (written : List String) : Parser Joint := do
  let words := written.map Token.lower
  let has (w : String) : Bool := words.contains w
  let isOuter := ["left", "right", "full", "outer"].any has
  let isInner := has "inner" || has "cross"
  if words.any (fun w => !Token.joinWords.contains w) ∨ (isInner ∧ isOuter) then
    throw (.joinUnknown (" ".intercalate written))
  else if isOuter ∧ (!has "left" ∨ has "right" ∨ has "full") then throw .joinUnsupported
  else return ⟨has "natural", has "left", has "cross"⟩

/-- What joins two tables: a comma, or up to three words with `join` behind them. -/
def joint? : Parser (Option Joint) := do
  if ← acceptMark "," then return some .plain
  else if ← acceptWord "join" then return some .plain
  else
    match ← look with
    | some t =>
      if isOneOf Token.joinWords t then
        skip
        let more : Parser (List String) := do
          if ← nextIs (Token.isWord "join") then return []
          else return [(← take Token.isName).text]
        let second ← more
        let third ← if second.isEmpty then pure [] else more
        word "join"
        return some (← joint ([t.text] ++ second ++ third))
      else return none
    | none => return none

def indexUse : Parser IndexUse := do
  if ← acceptWords ["indexed", "by"] then return .by (← name)
  else if ← acceptWords ["not", "indexed"] then return .never
  else return .free

def direction : Parser Bool := do
  if ← acceptWord "desc" then return true
  else
    discard (acceptWord "asc")
    return false

def nulls? : Parser (Option Bool) := do
  if ← acceptWord "nulls" then
    if ← acceptWord "first" then return some true
    else
      word "last"
      return some false
  else return none

def nameList : Parser (List String) := do
  return (← insideIf (commas do
    let found ← name
    if ← acceptWord "collate" then discard name
    discard direction
    return found)).getD []

def twice? (commons : List (Common Query)) : Option String :=
  (commons.zipIdx.find? fun (c, i) =>
    (commons.take i).any fun other => Token.lower other.name == Token.lower c.name).map fun found =>
      found.1.name

def raised : Parser Term := do
  unless ← acceptWord "ignore" do
    discard (take (isOneOf ["rollback", "abort", "fail"]))
    mark ","
    discard name
  return .raise

def startsWindow (t : Token) : Bool :=
  isOneOf ["partition", "order", "range", "rows", "groups"] t || t.isMark ")"

def spacing? : Parser (Option Spacing) := do
  if ← acceptWord "range" then return some .range
  else if ← acceptWord "rows" then return some .rows
  else if ← acceptWord "groups" then return some .groups
  else return none

def exclusion : Parser Exclusion := do
  if ← acceptWord "exclude" then
    if ← acceptWords ["no", "others"] then return .none
    else if ← acceptWords ["current", "row"] then return .current
    else if ← acceptWord "group" then return .group
    else
      word "ties"
      return .ties
  else return .none

def isFrame : Edge Term → Edge Term → Bool
  | .current, .before _ | .after _, .before _ | .after _, .current => false
  | _, _ => true

/-- The order and the bounds that end a query. -/
structure Ending where
  order : List (Order Term)
  limit : Option Term
  offset : Option Term

namespace Ending

def none : Ending := ⟨[], .none, .none⟩

def clause? (e : Ending) : Option String :=
  if !e.order.isEmpty then some "ORDER BY" else e.limit.map fun _ => "LIMIT"

end Ending

def checkEndings : List (Ending × Option Compound) → Parser Unit
  | (a, _) :: (b, compound?) :: rest => do
    checkEndings ((b, compound?) :: rest)
    match a.clause?, compound? with
    | some clause, some compound => throw (.endingMisplaced clause compound.text)
    | _, _ => return
  | _ => return

def alone : Origin Term Query → Origin Term Query
  | .table database? name _ => .table database? name .free
  | origin => origin

mutual

def expression : Nat → Nat → Parser Term
  | 0, _ => throw .tooDeep
  | n + 1, level => do operators n level (← operand n)

/-- Reads the operators behind an expression. -/
def operators : Nat → Nat → Term → Parser Term
  | 0, _, _ => throw .tooDeep
  | n + 1, level, left => do
    match ← look with
    | none => return left
    | some t =>
      match operator? t with
      | some (own, make) =>
        if own < level then return left
        else
          skip
          operators n level (make left (← expression n (own + 1)))
      | none =>
        if t.isWord "collate" ∧ level ≤ collateLevel then
          skip
          operators n level (.collate left (← take fun t => t.isId || t.kind == .string).name)
        else if level ≤ testLevel then
          match ← test? n left with
          | some tested => operators n level tested
          | none => return left
        else return left

/-- Reads a test behind an expression. -/
def test? : Nat → Term → Parser (Option Term)
  | 0, _ => throw .tooDeep
  | n + 1, left => do
    if ← acceptWord "isnull" then return some (.isNull left)
    else if ← acceptWord "notnull" then return some (.notNull left)
    else if ← acceptWord "is" then
      let isNegated ← acceptWord "not"
      return some (identity isNegated left (← expression n aboveTests))
    else
      let negated ← acceptWord "not"
      if negated then
        if ← acceptWord "null" then return some (.notNull left)
      if ← acceptWord "between" then
        let low ← expression n 3
        if ← acceptWord "or" then
          discard (expression n 1)
          unexpected
        word "and"
        let high ← expression n aboveTests
        return some (negateIf negated (.between left low high))
      else if ← acceptWord "in" then return some (negateIf negated (← among n left))
      else if ← nextIs (isOneOf patternWords) then
        let t ← take fun _ => true
        let pattern ← expression n aboveTests
        let escape ← if ← acceptWord "escape" then pure [← expression n aboveTests] else pure []
        return some (negateIf negated
          (.call t.text false (some ([pattern, left] ++ escape)) none none))
      else if negated then unexpected
      else return none

/-- Reads what an expression is looked for in. -/
def among : Nat → Term → Parser Term
  | 0, _ => throw .tooDeep
  | n + 1, left => do
    if ← acceptMark "(" then
      let e : Term ← do
        if ← nextIs startsQuery then pure (.amongRows left (← query n))
        else if ← nextIs (Token.isMark ")") then pure (.literal (.integer "0"))
        else pure (amongOf left (← commas (expression n 1)))
      mark ")"
      return e
    else
      let (database?, table) ← qualified
      let origin : Origin Term Query :=
        match ← insideIf (arguments n) with
        | some given => .call database? table given
        | none => .table database? table .free
      return .amongRows left (.whole [⟨origin, none, false, false, false, none, none⟩])

/-- Reads an expression up to its first operator. -/
def operand : Nat → Parser Term
  | 0 => throw .tooDeep
  | n + 1 => do
    match ← look with
    | none => unexpected
    | some t =>
      match literal? t with
      | some value =>
        skip
        if t.kind = .string ∧ (← nextIs (Token.isMark ".")) then dotted t
        else return .literal value
      | none =>
        if t.kind = .variable then
          if isRegister t.text then unexpected
          skip
          return .parameter
        else if ← acceptWord "not" then return .not (← expression n testLevel)
        else if ← acceptMark "-" then return .negative (← operand n)
        else if ← acceptMark "+" then return .positive (← operand n)
        else if ← acceptMark "~" then return .complement (← operand n)
        else if ← acceptMark "(" then
          let e : Term ← do
            if ← nextIs startsQuery then pure (.scalar (← query n))
            else
              match ← commas (expression n 1) with
              | [e] => pure e
              | fields => pure (.row fields)
          mark ")"
          return e
        else if ← acceptWord "exists" then return .exists (← inside (query n))
        else if ← acceptWord "case" then choice n
        else if ← acceptWord "cast" then
          inside do
            let e ← expression n 1
            word "as"
            let type ← Parser.type
            return .cast e (Token.spelling type)
        else if isOneOf timeWords t then
          skip
          return .call t.text false (some []) none none
        else if t.isId ∨ isOneOf Token.joinWords t then
          skip
          if t.isId ∧ (← nextIs (Token.isMark "(")) then
            if t.isWord "raise" then inside raised else call n t
          else dotted t
        else unexpected

def arguments : Nat → Parser (List Term)
  | 0 => throw .tooDeep
  | n + 1 => do
    if ← nextIs (Token.isMark ")") then return [] else commas (expression n 1)

/-- Reads the arguments of a function. -/
def call : Nat → Token → Parser Term
  | 0, _ => throw .tooDeep
  | n + 1, function => do
    let place := (← tokens).length
    mark "("
    if ← acceptMark "*" then
      mark ")"
      return .call function.name false none (← filter? n) ((← over? n).map fun o => (o, place))
    else
      let distinct ← acceptWord "distinct"
      unless distinct do discard (acceptWord "all")
      let found ← arguments n
      mark ")"
      let filter? ← filter? n
      let over? ← over? n
      if distinct ∧ over?.isSome then throw .windowDistinct
      return .call function.name distinct (some found) filter? (over?.map fun o => (o, place))

def filter? : Nat → Parser (Option Term)
  | 0 => throw .tooDeep
  | n + 1 => do
    match ← tokens with
    | a :: b :: _ =>
      if a.isWord "filter" ∧ b.isMark "(" then
        skip
        inside do
          word "where"
          return some (← expression n 1)
      else return none
    | _ => return none

def over? : Nat → Parser (Option (Over Term))
  | 0 => throw .tooDeep
  | n + 1 => do
    match ← tokens with
    | a :: b :: _ =>
      if a.isWord "over" ∧ (b.isMark "(" ∨ b.isName) then
        skip
        if b.isMark "(" then return some (.own (← inside (window n)))
        else return some (.name (← name))
      else return none
    | _ => return none

def window : Nat → Parser (Window Term)
  | 0 => throw .tooDeep
  | n + 1 => do
    let base ← if ← nextIs startsWindow then pure none else pure (some (← name))
    let parts ←
      if ← acceptWords ["partition", "by"] then commas (expression n 1) else pure []
    let order ← if ← acceptWords ["order", "by"] then commas (orderTerm n) else pure []
    match ← spacing? with
    | none => return ⟨base, parts, order, none⟩
    | some spacing =>
      if ← acceptWord "between" then
        let first ← edge n "preceding"
        word "and"
        let last ← edge n "following"
        unless isFrame first last do throw .frameUnsupported
        return ⟨base, parts, order, some ⟨spacing, first, last, ← exclusion⟩⟩
      else
        let first ← edge n "preceding"
        unless isFrame first .current do throw .frameUnsupported
        return ⟨base, parts, order, some ⟨spacing, first, .current, ← exclusion⟩⟩

/-- Reads where a frame begins or ends: without a bound it goes in one direction only. -/
def edge : Nat → String → Parser (Edge Term)
  | 0, _ => throw .tooDeep
  | n + 1, direction => do
    if ← acceptWord "unbounded" then
      word direction
      return .unbounded
    else if ← acceptWord "current" then
      word "row"
      return .current
    else
      let distance ← expression n 1
      if ← acceptWord "preceding" then return .before distance
      else
        word "following"
        return .after distance

/-- Reads the branches of a choice. A subject is compared to each of them. -/
def choice : Nat → Parser Term
  | 0 => throw .tooDeep
  | n + 1 => do
    let subject? ←
      if ← nextIs (Token.isWord "when") then pure none else pure (some (← expression n 1))
    let branch : Parser (Term × Term) := do
      word "when"
      let found ← expression n 1
      word "then"
      let result ← expression n 1
      return ((subject?.map fun s => .compare .equal s found).getD found, result)
    let branches ← several [← branch] (do
      if ← nextIs (Token.isWord "when") then return some (← branch) else return none)
    let other ← if ← acceptWord "else" then expression n 1 else pure (.literal .null)
    word "end"
    return .choice branches other

def query : Nat → Parser Query
  | 0 => throw .tooDeep
  | n + 1 => do
    let commons ← do
      if ← acceptWord "with" then
        discard (acceptWord "recursive")
        commas (common n)
      else pure []
    if let some name := twice? commons then throw (Flaw.commonTwice name)
    let (first, ending) ← branch n
    let others ← several [] (do
      match ← compound? with
      | some compound => return some (compound, ← branch n)
      | none => return none)
    checkEndings ((ending, none) :: others.map fun (compound, _, own) => (own, some compound))
    let last := ((others.getLast?.map fun o => o.2.2).getD ending)
    return .of ⟨commons, first, others.map fun (compound, found, _) => (compound, found),
      last.order, last.limit, last.offset⟩

def common : Nat → Parser (Common Query)
  | 0 => throw .tooDeep
  | n + 1 => do
    let named ← name
    let columns ← nameList
    word "as"
    let isKept ← do
      if ← acceptWord "not" then
        word "materialized"
        pure (some false)
      else if ← acceptWord "materialized" then pure (some true)
      else pure none
    return ⟨named, columns, ← inside (query n), isKept⟩

def orderTerm : Nat → Parser (Order Term)
  | 0 => throw .tooDeep
  | n + 1 => do
    let key ← expression n 1
    let descending ← direction
    return ⟨key, descending, ← nulls?⟩

def branch : Nat → Parser (Branch Term Query × Ending)
  | 0 => throw .tooDeep
  | n + 1 => do
    if ← acceptWord "values" then
      return (.values (← commas (inside (commas (expression n 1)))), .none)
    else
      word "select"
      let isDistinct ← acceptWord "distinct"
      unless isDistinct do discard (acceptWord "all")
      let columns ← commas (shown n)
      let items ← if ← acceptWord "from" then join n else pure []
      let condition ← if ← acceptWord "where" then pure (some (← expression n 1)) else pure none
      let groups ← if ← acceptWords ["group", "by"] then commas (expression n 1) else pure []
      let having ← if ← acceptWord "having" then pure (some (← expression n 1)) else pure none
      let windows ←
        if ← atWindows then
          skip
          commas do
            let named ← name
            word "as"
            return (named, ← inside (window n))
        else pure []
      let windows ← Window.chainAll windows
      return (.select ⟨isDistinct, columns, items, condition, groups, having, windows⟩, ← ending n)

def ending : Nat → Parser Ending
  | 0 => throw .tooDeep
  | n + 1 => do
    let order ← if ← acceptWords ["order", "by"] then commas (orderTerm n) else pure []
    if ← acceptWord "limit" then
      let limit ← expression n 1
      if ← acceptWord "offset" then return ⟨order, some limit, some (← expression n 1)⟩
      else if ← acceptMark "," then return ⟨order, some (← expression n 1), some limit⟩
      else return ⟨order, some limit, none⟩
    else return ⟨order, none, none⟩

def shown : Nat → Parser (Shown Term)
  | 0 => throw .tooDeep
  | n + 1 => do
    match ← tokens with
    | a :: b :: c :: _ =>
      if a.isMark "*" then
        skip
        return .all
      else if a.isName ∧ b.isMark "." ∧ c.isMark "*" then
        skip
        skip
        skip
        return .allOf a.name
      else shownTerm n
    | a :: _ =>
      if a.isMark "*" then
        skip
        return .all
      else shownTerm n
    | [] => unexpected

def shownTerm : Nat → Parser (Shown Term)
  | 0 => throw .tooDeep
  | n + 1 => do
    let (e, tokens) ← withTokens (expression n 1)
    let gap := ((← look).map Token.gap).getD ""
    return .one e (← alias?) (Token.trimmed (Token.spelling tokens ++ gap))

def join : Nat → Parser (List (Item Term Query))
  | 0 => throw .tooDeep
  | n + 1 => do
    several (← items n none) (do
      match ← joint? with
      | some j => return (← items n (some j)).head?
      | none => return none)

/-- Reads the next table of a join. A join in parentheses that comes first and has no name is no
different from one without them. -/
def items : Nat → Option Joint → Parser (List (Item Term Query))
  | 0, _ => throw .tooDeep
  | n + 1, j? => do
    let found : List (Item Term Query) ⊕ Origin Term Query ← origin n
    let label ← alias?
    let use ← match found with
      | .inr (.table ..) => indexUse
      | _ => pure .free
    let on ← if ← acceptWord "on" then pure (some (← expression n 1)) else pure none
    let common ← if ← acceptWord "using" then pure (some (← inside (commas name))) else pure none
    if j?.isNone then
      if on.isSome then throw (.joinRequired "ON")
      if common.isSome then throw (.joinRequired "USING")
    let j := j?.getD .plain
    let make (origin : Origin Term Query) : Item Term Query :=
      ⟨origin, label, j.isNatural, j.keepsLeft, j.isFixed, on, common⟩
    match found with
    | .inr (.table database? name _) => return [make (.table database? name use)]
    | .inr origin => return [make origin]
    | .inl inner =>
      if j?.isNone ∧ label.isNone then return inner
      else
        match inner with
        | [only] => return [make (alone only.origin)]
        | _ =>
          return [make (.join (.whole inner))]

/-- Reads where the rows of a table come from, or a join in parentheses. -/
def origin : Nat → Parser (List (Item Term Query) ⊕ Origin Term Query)
  | 0 => throw .tooDeep
  | n + 1 => do
    if ← acceptMark "(" then
      if ← nextIs startsQuery then
        let q ← query n
        mark ")"
        return .inr (.query q)
      else
        let inner ← join n
        mark ")"
        return .inl inner
    else
      let (database?, table) ← qualified
      match ← insideIf (arguments n) with
      | some given => return .inr (.call database? table given)
      | none => return .inr (.table database? table .free)

end

def depth : Parser Nat := do return 8 * (← tokens).length + 8

def wholeExpression : Parser Term := do expression (← depth) 1

def wholeQuery : Parser Query := do query (← depth)

def wholeJoin : Parser (List (Item Term Query)) := do join (← depth)

def wholeOrderTerm : Parser (Order Term) := do orderTerm (← depth)

end Motif.Sql.Parser
