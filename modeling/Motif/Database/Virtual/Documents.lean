import Motif.Database.Virtual.Module

/-!
Documents: texts in fields, in which words can be looked up. They are in a table of their own, or
in another one. The arguments of the module name the fields, and may say more where the module
is the later one of two.
-/

set_option autoImplicit false

namespace Motif.Database.Virtual

open Sql

namespace Documents

/-- What the arguments say. -/
structure Setting where
  /-- The module is the later one, which knows options. -/
  isLater : Bool
  fields : List String
  hasTokenizer : Bool
  lengths : Option String
  packer : Option String
  unpacker : Option String
  isTurned : Bool
  content : Option String
  language : Option String
  unsearched : List String

def isWordChar (c : Char) : Bool := c.isAlphanum || c == '_' || 0x80 ≤ c.toNat

def word? : List Char → Option (List Char × List Char)
  | [] => none
  | c :: rest =>
    let cut (size : Nat) : Option (List Char × List Char) :=
      some (c :: rest.take size, rest.drop size)
    if c = '[' then cut (((rest.idxOf? ']').map (· + 1)).getD rest.length)
    else if isQuote c then cut ((Token.closing? c rest).getD rest.length)
    else if isWordChar c then cut (Token.run isWordChar rest)
    else word? rest

def words : Nat → List Char → List String
  | 0, _ => []
  | fuel + 1, cs =>
    match word? cs with
    | none => []
    | some (word, behind) => bare word :: words fuel (behind.drop 1)

def isOption (option : String) : Bool :=
  ["remove_diacritics=0", "remove_diacritics=1", "remove_diacritics=2"].contains option ||
    option.startsWith "tokenchars=" || option.startsWith "separators="

def checkTokenizer (text : List Char) : Except ModuleFlaw Unit :=
  let (name, options) := match word? text with
    | none => (bare text, [])
    | some (word, behind) => (bare word, words text.length (behind.drop 1))
  if name == "unicode61" then
    if options.all isOption then .ok () else .error .tokenizerArguments
  else if ["simple", "porter"].contains name then .ok ()
  else .error (.unknownTokenizer name)

def Setting.setOption (s : Setting) (argument name value : String) : Except ModuleFlaw Setting :=
  let is (words : List String) : Bool := words.contains (Token.lower value)
  match Token.lower name with
  | "matchinfo" => if is ["fts3"] then .ok s else .error (.parameterValue "matchinfo" value)
  | "prefix" => .ok { s with lengths := some value }
  | "compress" => .ok { s with packer := some value }
  | "uncompress" => .ok { s with unpacker := some value }
  | "order" =>
    if is ["asc", "desc"] then .ok { s with isTurned := is ["desc"] }
    else .error (.parameterValue "order" value)
  | "content" => .ok { s with content := some value }
  | "languageid" => .ok { s with language := some value }
  | "notindexed" => .ok { s with unsearched := s.unsearched ++ [value] }
  | _ => .error (.parameter argument)

def Setting.add (s : Setting) (argument : String) : Except ModuleFlaw Setting :=
  let cs := argument.toList
  let isTokenizer := Token.lower (String.ofList (cs.take 8)) == "tokenize" &&
    (cs[8]?).any fun c => !isWordChar c
  if !s.hasTokenizer ∧ isTokenizer then do
    checkTokenizer (cs.drop 9)
    return { s with hasTokenizer := true }
  else if s.isLater ∧ cs.contains '=' then
    let name := cs.takeWhile (· ≠ '=')
    s.setOption argument (String.ofList name) (bare (cs.drop (name.length + 1)))
  else .ok { s with fields := s.fields ++ [argument] }

def areLengths : Nat → List Char → Bool
  | 0, _ => true
  | count + 1, cs =>
    let digits := cs.takeWhile Char.isDigit
    !digits.isEmpty && areLengths count (cs.drop (digits.length + 1))

def fieldName (text : String) : String := ((word? text.toList).map fun w => bare w.1).getD ""

/-- Puts together what the arguments say. Fields that are not named are those of the other table. -/
def Setting.ofVirtual (openQuery : Opener) (isLater : Bool) (v : Virtual) :
    Except Error Setting := do
  let start : Setting := ⟨isLater, [], false, none, none, none, false, none, none, []⟩
  match v.arguments.foldlM Setting.add start with
  | .error flaw => fault flaw
  | .ok s =>
    let s := if s.content.isSome then { s with packer := none, unpacker := none } else s
    let found ← match s.fields, s.content with
      | [], some other =>
        let r ← openQuery (query [.all] other none [])
        let isLanguage (name : String) : Bool := s.language.any (sameName name)
        pure ((r.fields.map Field.name).eraseP isLanguage)
      | fields, _ => pure fields
    let fields := (if found.isEmpty then ["content"] else found).map fieldName
    let lengths := (s.lengths.getD "").toList
    let count := if lengths.isEmpty then 0 else lengths.count ',' + 1
    if !areLengths count lengths then fault (.prefixParameter (s.lengths.getD ""))
    match s.unsearched.find? fun name => !fields.any (sameName name) with
    | some name => throw (.query (.noSuchColumn name))
    | none => pure ()
    if s.packer.isNone ∧ s.unpacker.isSome then fault (.missingParameter "compress")
    if s.packer.isSome ∧ s.unpacker.isNone then fault (.missingParameter "uncompress")
    return { s with fields }

/-- The statement that tells the columns. The table itself goes by a hidden one, and so do the
number of a document and its language. -/
def declaration (s : Setting) (table : String) : String :=
  let names := ", ".intercalate (s.fields.map quote)
  let language := quote (s.language.getD "__langid")
  s!"CREATE TABLE x({names}, {quote table} HIDDEN, docid HIDDEN, {language} HIDDEN)"

/-- The query for the documents, in the order of their numbers. -/
def content (s : Setting) (table : String) : Query :=
  let own := column ["x"]
  let unpacked (e : Term) : Term :=
    match s.unpacker with
    | some function => .call function false (some [e]) none none
    | none => e
  let order : List (Order Term) := [⟨.name ⟨[], "rowid", false, false⟩, s.isTurned, none⟩]
  match s.content with
  | none =>
    let fields := s.fields.zipIdx.map fun (name, i) => unpacked (own s!"c{i}{name}")
    let language := s.language.toList.map fun _ => own "langid"
    let terms := column [] "docid" :: fields ++ language
    query (terms.map shown) s!"{table}_content" (some "x") order
  | some other =>
    let terms := column [] "rowid" :: (s.fields ++ s.language.toList).map own
    query (terms.map shown) other (some "x") order

def work : Nat := 5000000

def silent : Error → Error
  | .query _ => .query (.module .logic)
  | e => e

end Documents

/-- A table of documents. -/
def documents (openQuery : Opener) (isLater : Bool) (v : Virtual) : Except Error Relation := do
  let s ← Documents.Setting.ofVirtual openQuery isLater v
  match declared 3 (Documents.declaration s v.name) with
  | .error _ => fault (.failed v.name)
  | .ok fields =>
    let width := s.fields.length
    let found : Flow (List Cell) :=
      match openQuery (Documents.content s v.name) with
      | .error e => .fail e
      | .ok r => r.content
    let row (cells : List Cell) : Row :=
      let number : Cell := .integer (cells.headD .null).toInt
      let cell (place : Nat) : Cell :=
        if place < width then cells[place + 1]?.getD .null
        else if place = width then .null
        else if place = width + 1 then number
        else if s.language.isSome then cells[width + 1]?.getD .null
        else .integer 0
      ⟨fun place => .ok (cell place), .ok number, false⟩
    let rows : Flow Row :=
      ⟨found.items.map row, found.fault?.map Documents.silent⟩
    return .ofModule fields Documents.work rows

end Motif.Database.Virtual
