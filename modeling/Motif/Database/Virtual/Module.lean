import Motif.Database.Relation
import Motif.Database.Schema

/-!
What modules have in common: how they read their arguments, declare the columns of their tables,
and ask for the rows of other tables.
-/

set_option autoImplicit false

namespace Motif.Database

open Sql

namespace Virtual

/-- What opens a query, so that a module may ask for the rows of other tables. -/
abbrev Opener := Query → Except Error Relation

def fault {α : Type} (flaw : ModuleFlaw) : Except Error α := .error (.query (.module flaw))

def isQuote (c : Char) : Bool := ['"', '\'', '\x60', '['].contains c

/-- What is in front of a closing quote, and what is behind it. A quote that is written twice stands
for one. -/
def untilQuote (close : Char) : List Char → List Char × List Char
  | [] => ([], [])
  | [c] => if c = close then ([], []) else ([c], [])
  | c :: d :: rest =>
    if c ≠ close then
      let (inside, behind) := untilQuote close (d :: rest)
      (c :: inside, behind)
    else if d = close then
      let (inside, behind) := untilQuote close rest
      (c :: inside, behind)
    else ([], d :: rest)

def quoted? (cs : List Char) : Option (List Char × List Char) :=
  match cs with
  | c :: rest => if isQuote c then some (untilQuote (if c = '[' then ']' else c) rest) else none
  | [] => none

def bare (cs : List Char) : String :=
  String.ofList (((quoted? cs).map Prod.fst).getD cs)

def quote (text : String) : String :=
  let inside := text.toList.flatMap fun c => if c = '\'' then [c, c] else [c]
  String.ofList ('\'' :: inside ++ ['\''])

/-- The columns that a statement declares. The last ones may be hidden. -/
def declared (hidden : Nat) (statement : String) : Except Flaw (List Field) := do
  match ← Statement.ofString statement with
  | .table name _ text =>
    let d ← Definition.ofText false name text
    let shown := d.columns.length - hidden
    return d.columns.zipIdx.map fun (c, place) =>
      { Field.plain c.name (some c.affinity) (some c.collation) with
        isHidden := shown ≤ place, isFilled := c.isFilled }
  | _ => throw .incomplete

def database : String := "main"

def column (path : List String) (name : String) : Term := .name ⟨path, name, false, true⟩

def shown (e : Term) : Shown Term := .one e none ""

def query (shown : List (Shown Term)) (table : String) (label : Option String)
    (order : List (Order Term)) : Query :=
  let item : Item Term Query :=
    ⟨.table (some database) table .free, label, false, false, false, none, none⟩
  .of ⟨[], .select ⟨false, shown, [item], none, [], none, []⟩, [], order, none, none⟩

def numberedRows (found : Flow (List Cell)) : Flow Row :=
  found.map fun cells =>
    ⟨fun place => .ok (cells[place + 1]?.getD .null), .ok (cells.headD .null), false⟩

end Virtual

end Motif.Database
