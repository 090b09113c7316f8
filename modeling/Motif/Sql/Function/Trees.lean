import Motif.Sql.Function.Basic
import Motif.Sql.Json.Change

/-!
The functions of trees, which are given to them as texts.
-/

set_option autoImplicit false

namespace Motif.Sql.Function

open Database (Cell)

def tree? (c : Cell) : Except Flaw (Option Json) :=
  if c.isNull then .ok none
  else
    match Json.ofText? c.bytes with
    | some j => .ok (some j)
    | none => .error .malformedJson

def treeOf (a : Argument) : Except Flaw Json :=
  match a.cell with
  | .null => .ok (.atom .null)
  | .integer _ | .real _ => .ok (.atom (.raw a.cell.bytes))
  | .text b => .ok (.atom (if a.isTree then .raw b else .string (Json.escape b)))
  | .blob _ => .error .jsonBlob

def onPaths {α : Type} (found : Except (List Nat) α) : Except Flaw α :=
  found.mapError fun rest =>
    .jsonPath (Text.Utf8.text (rest.flatMap fun b => if b = 39 then [b, b] else [b]))

def atPath (j : Json) (path : Cell) : Except Flaw (Option Json) :=
  if path.isNull then .ok none else onPaths (j.at? path.bytes)

/-- What is found in a tree that the first argument stands for, on the path that the second one tells
if there is one. -/
def inTree (f : Json → Cell) (arguments : List Cell) : Except Flaw Cell := do
  match ← tree? (arguments.headD .null) with
  | none => return .null
  | some j =>
    match arguments.drop 1 with
    | [] => return f j
    | path :: _ => return ((← atPath j path).map f).getD .null

def extract (arguments : List Cell) : Except Flaw Cell := do
  match arguments with
  | [] | [_] => return .null
  | [_, _] => inTree Json.cell arguments
  | c :: paths =>
    match ← tree? c with
    | none => return .null
    | some j =>
      let found ← paths.mapM (atPath j)
      return .text (Json.array (found.map fun f => f.getD (.atom .null))).text

def objectOf : List Argument → Except Flaw (List (List Nat) × List Json)
  | label :: value :: rest => do
    match label.cell with
    | .text b =>
      let item ← treeOf value
      let (labels, items) ← objectOf rest
      return (Json.escape b :: labels, item :: items)
    | _ => throw .jsonLabel
  | _ => return ([], [])

/-- Puts values on paths in a tree, the one after the other. If one takes the place of the tree itself
it is all that is left. -/
def put (adds replaces : Bool) (name : String) (arguments : List Argument) :
    Except Flaw Argument := do
  if arguments.isEmpty then return ⟨.null, false⟩
  if arguments.length % 2 = 0 then throw (.jsonOdd name)
  match ← tree? ((arguments.map Argument.cell).headD .null) with
  | none => return ⟨.null, false⟩
  | some j => puts j (arguments.drop 1)
where
  puts (j : Json) : List Argument → Except Flaw Argument
    | path :: value :: rest => do
      if path.cell.isNull then puts j rest
      else
        let steps ← onPaths (Json.steps? path.cell.bytes)
        if steps.isEmpty then
          if replaces then last value rest else puts j rest
        else
          let item ← treeOf value
          puts (← onPaths (Json.put adds replaces item steps.length j steps)) rest
    | _ => .ok ⟨.text j.text, true⟩
  last (value : Argument) : List Argument → Except Flaw Argument
    | path :: other :: rest => do
      let steps ← if path.cell.isNull then pure [0] else onPaths (Json.steps? path.cell.bytes)
      last (if steps.isEmpty then other else value) rest
    | _ => .ok value

def takeOut (arguments : List Cell) : Except Flaw Cell := do
  match ← tree? (arguments.headD .null) with
  | none => return .null
  | some j =>
    let left ← (arguments.drop 1).foldlM (fun (left : Option Json) path =>
      match left with
      | none => .ok none
      | some j => do
        if path.isNull then return none
        let steps ← onPaths (Json.steps? path.bytes)
        onPaths (Json.take steps.length j steps)) (some j)
    return (left.map fun j => .text j.text).getD .null

def mergedTrees (arguments : List Cell) : Except Flaw Cell := do
  match ← arguments.mapM tree? with
  | [some j, some other] => return .text (j.merged other).text
  | _ => return .null

def itemCount : Json → Nat
  | .array items => items.length
  | _ => 0

def makesTree (takes : Nat → Bool) (f : List Argument → Except Flaw Cell) : Function :=
  ⟨takes, fun _ arguments => f arguments, false, false, false, fun _ => true⟩

def isNest (c : Cell) : Bool :=
  match c with
  | .text (b :: _) => b = 91 || b = 123
  | _ => false

/-- The functions of trees. -/
def ofTrees? (name : String) : Option Function :=
  let oneOrTwo (n : Nat) : Bool := n = 1 || n = 2
  let puts (f : List Argument → Except Flaw Argument) : Function :=
    { makesTree (fun _ => true) fun a => do return (← f a).cell with givesTree := isNest }
  match name with
  | "json" => some (makesTree (· = 1) fun a => do
      return ((← tree? ((a.map Argument.cell).headD .null)).map fun j => .text j.text).getD .null)
  | "json_array" => some (makesTree (fun _ => true) fun a => do
      return .text (Json.array (← a.mapM treeOf)).text)
  | "json_object" => some (makesTree (fun _ => true) fun a => do
      if a.length % 2 = 1 then throw .jsonPairs
      let (labels, items) ← objectOf a
      return .text (Json.object labels items).text)
  | "json_quote" => some (makesTree (· = 1) fun a => do
      return .text (← treeOf (a.headD ⟨.null, false⟩)).text)
  | "json_array_length" =>
    some (plain oneOrTwo (inTree fun j => .integer (itemCount j)))
  | "json_type" => some (plain oneOrTwo (inTree fun j => .ofText j.typeName))
  | "json_valid" => some (plain (· = 1) fun a =>
      let c := a.headD .null
      .ok (.ofBool (!c.isNull && (Json.ofText? c.bytes).isSome)))
  | "json_set" => some (puts (put true true "set"))
  | "json_insert" => some (puts (put true false "insert"))
  | "json_replace" => some (puts (put false true "replace"))
  | "json_remove" => some (makesTree (fun _ => true) fun a => takeOut (a.map Argument.cell))
  | "json_patch" => some (makesTree (· = 2) fun a => mergedTrees (a.map Argument.cell))
  | "json_extract" => some { plain (fun _ => true) extract with givesTree := isNest }
  | _ => none

end Motif.Sql.Function
