import Motif.Database.Virtual.Module

/-!
Tables of texts in which words can be looked up. Their rows are in a table of their own, or in
another one. What they are like is told by the arguments of the module.
-/

set_option autoImplicit false

namespace Motif.Database.Virtual

open Sql

namespace FullText

/-- Where the texts are kept. -/
inductive Content where
  | own
  | absent
  | other (table : String)
deriving DecidableEq

/-- What the arguments say. -/
structure Setting where
  columns : List String
  content : Content
  number : Option String
  keepsSizes : Bool
  prefixes : Nat
  hasTokenizer : Bool

/-- An argument is a column with a word behind it, or sets an option. -/
inductive Argument where
  | column (name : String) (word : Option String)
  | option (name value : String)

def isWordChar (c : Char) : Bool :=
  c.isAlphanum || c == '_' || c == '\x1a' || 0x80 ≤ c.toNat

def skipBlanks (cs : List Char) : List Char := cs.dropWhile (· = ' ')

def word? (cs : List Char) : Option (String × Bool × List Char) :=
  match quoted? cs with
  | some (inside, behind) => some (String.ofList inside, true, behind)
  | none =>
    let word := cs.takeWhile isWordChar
    if word.isEmpty then none else some (String.ofList word, false, cs.drop word.length)

def Argument.ofString? (text : String) : Option Argument := do
  let (first, isQuoted, behind) ← word? text.toList
  let behind := skipBlanks behind
  let isOption := behind.head? = some '='
  if isOption ∧ isQuoted then none
  let behind := skipBlanks (if isOption then behind.drop 1 else behind)
  let (second?, behind) ←
    if behind.isEmpty then some (none, [])
    else (word? behind).map fun (second, _, behind) => (some second, behind)
  if !behind.isEmpty then none
  else if isOption then some (.option first (second?.getD ""))
  else some (.column first second?)

def readPrefixes : Nat → Nat → List Char → Except ModuleFlaw Nat
  | 0, before, _ => .ok before
  | fuel + 1, before, cs =>
    let cs := skipBlanks cs
    let hasComma := 0 < before ∧ cs.head? = some ','
    let cs := if hasComma then skipBlanks (cs.drop 1) else cs
    if cs.isEmpty ∧ !hasComma then .ok before
    else
      let digits := cs.takeWhile Char.isDigit
      let length := digits.foldl (fun n c => 10 * n + (c.toNat - '0'.toNat)) 0
      if digits.isEmpty then .error (.badOption "prefix")
      else if before = 31 then .error .manyPrefixes
      else if length = 0 ∨ 1000 ≤ length then .error .prefixRange
      else readPrefixes fuel (before + 1) (cs.drop digits.length)

def words : Nat → List Char → Option (List String)
  | 0, _ => none
  | fuel + 1, cs =>
    if cs.isEmpty then some []
    else do
      let cs := skipBlanks cs
      let (word, behind) ←
        if cs.head? = some '\'' then
          (Token.closing? '\'' (cs.drop 1)).map fun size =>
            (bare (cs.take (size + 1)), cs.drop (size + 1))
        else
          let word := cs.takeWhile isWordChar
          if word.isEmpty then none else some (String.ofList word, cs.drop word.length)
      return word :: (← words fuel (skipBlanks behind))

def areOptions (knows : String → String → Bool) : List String → Bool
  | [] => true
  | [_] => false
  | name :: value :: rest => knows (Token.lower name) value && areOptions knows rest

def isCategory (word : String) : Bool :=
  ["C*", "Co", "Cc", "Cf", "Cn", "Cs", "L*", "L&", "LC", "Ll", "Lm", "Lo", "Lt", "Lu", "M*", "Mc",
    "Me", "Mn", "N*", "Nd", "Nl", "No", "P*", "Pc", "Pd", "Pe", "Pf", "Pi", "Po", "Ps", "S*", "Sc",
    "Sk", "Sm", "So", "Z*", "Zl", "Zp", "Zs"].contains word

/-- Checks what a tokenizer is set to. One may be made of another. -/
def checkTokenizer : Nat → List String → Except ModuleFlaw Unit
  | 0, _ => .error .badTokenizer
  | _ + 1, [] => .ok ()
  | fuel + 1, name :: options =>
    let require (holds : Bool) : Except ModuleFlaw Unit :=
      if holds then .ok () else .error .badTokenizer
    match Token.lower name with
    | "ascii" =>
      require (areOptions (fun name _ => ["tokenchars", "separators"].contains name) options)
    | "unicode61" =>
      require (areOptions (fun name value =>
        name == "tokenchars" || name == "separators" ||
          (name == "remove_diacritics" && ["0", "1", "2"].contains value) ||
          (name == "categories" &&
            (value.splitToList fun c => c == ' ' || c == '\t').all fun word =>
              word.isEmpty || isCategory word)) options)
    | "trigram" =>
      require (areOptions (fun name value =>
        name == "case_sensitive" && ["0", "1"].contains value) options)
    | "porter" =>
      match checkTokenizer fuel options with
      | .ok () => .ok ()
      | .error _ => .error .badTokenizer
    | _ => .error (.noTokenizer name)

def isShort (name option : String) : Bool := option.startsWith (Token.lower name)

def Setting.setOption (s : Setting) (name value : String) : Except ModuleFlaw Setting :=
  if isShort name "prefix" then do
    return { s with prefixes := ← readPrefixes (value.length + 1) s.prefixes value.toList }
  else if isShort name "tokenize" then
    if s.hasTokenizer then .error (.severalOptions "tokenize")
    else
      match words (value.length + 1) value.toList with
      | none => .error .tokenizeText
      | some words => do
        checkTokenizer (words.length + 1) words
        return { s with hasTokenizer := true }
  else if isShort name "content" then
    if s.content ≠ .own then .error (.severalOptions "content")
    else .ok { s with content := if value.isEmpty then .absent else .other value }
  else if isShort name "content_rowid" then
    if s.number.isSome then .error (.severalOptions "content_rowid")
    else .ok { s with number := some value }
  else if isShort name "columnsize" then
    if value == "0" ∨ value == "1" then .ok { s with keepsSizes := value == "1" }
    else .error (.badOption "columnsize")
  else if isShort name "detail" then
    if ((["none", "full", "columns"].filter (isShort value)).length) = 1 then .ok s
    else .error (.badOption "detail")
  else .error (.option name)

def Setting.add (s : Setting) (argument : String) : Except ModuleFlaw Setting :=
  match Argument.ofString? argument with
  | none => .error (.unreadable argument)
  | some (.option name value) => s.setOption name value
  | some (.column name word) =>
    if ["rank", "rowid"].contains (Token.lower name) then .error (.reservedColumn name)
    else
      match word.filter fun w => Token.lower w ≠ "unindexed" with
      | some w => .error (.columnOption w)
      | none => .ok { s with columns := s.columns ++ [name] }

def Setting.ofVirtual (v : Virtual) : Except ModuleFlaw Setting :=
  if Token.lower v.name == "rank" then .error (.reservedTable v.name)
  else v.arguments.foldlM Setting.add ⟨[], .own, none, true, 0, false⟩

def declaration (s : Setting) (table : String) : String :=
  let names := ", ".intercalate (s.columns.map quote)
  s!"CREATE TABLE x({names}, {quote table} HIDDEN, rank HIDDEN)"

def source? (s : Setting) (table : String) : Option String :=
  match s.content with
  | .own => some s!"{table}_content"
  | .other other => some other
  | .absent => if s.keepsSizes then some s!"{table}_docsize" else none

def sourceColumns (s : Setting) : List String :=
  match s.content with
  | .own => (List.range s.columns.length).map fun i => s!"c{i}"
  | .other _ => s.columns
  | .absent => []

def content (s : Setting) (source : String) : Query :=
  let label := "T"
  let number := column [label] (s.number.getD "rowid")
  let terms := number :: (sourceColumns s).map (column [label])
  query (terms.map shown) source (some label) [⟨number, false, none⟩]

def work : Nat := 1000000

def layoutVersion : Int := 4

/-- Reads what the module keeps about itself. -/
def checkKept (openQuery : Opener) (table : String) : Except Error Unit := do
  let failed {α : Type} : Except Error α := fault (.failed table)
  let read (columns : List String) (source : String) : Except Error (Flow (List Cell)) :=
    let terms := columns.map (column [])
    match openQuery (query (terms.map shown) source none []) with
    | .error _ => failed
    | .ok r => .ok r.content
  let blocks ← read ["id", "block"] s!"{table}_data"
  let isBlock (cells : List Cell) : Bool :=
    match cells with
    | [.integer 10, .blob _] | [.integer 10, .text _] => true
    | _ => false
  if !blocks.items.any isBlock then failed
  else
    let settings ← read ["k", "v"] s!"{table}_config"
    if settings.fault?.isSome then failed
    let version := settings.items.foldl (fun (version : Int) cells =>
      match cells with
      | [k, v] => if Token.lower (Text.Utf8.text k.bytes) == "version" then v.toInt else version
      | _ => version) 0
    if version ≠ layoutVersion then fault (.fileFormat version)

end FullText

/-- A table of texts. The number of the reading goes by the name of the table. -/
def fullText (openQuery : Opener) (v : Virtual) : Except Error Relation := do
  match FullText.Setting.ofVirtual v with
  | .error flaw => fault flaw
  | .ok s =>
    match declared 2 (FullText.declaration s v.name) with
    | .error _ => fault (.failed v.name)
    | .ok fields =>
      FullText.checkKept openQuery v.name
      let width := s.columns.length
      let rows : Flow Row :=
        match FullText.source? s v.name with
        | none => .fail (.query (.module (.noScan v.name)))
        | some source =>
          match openQuery (FullText.content s source) with
          | .error e => .fail e
          | .ok r => (numberedRows r.content).map fun row =>
            { row with
              cell := fun place => if place = width then .ok (.integer 1) else row.cell place }
      return .ofModule fields FullText.work rows

end Motif.Database.Virtual
