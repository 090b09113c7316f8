import Motif.Sql.Function

/-!
Functions of all rows of a group.
-/

set_option autoImplicit false

namespace Motif.Sql.Aggregate

open Database (Cell)

def number : Cell → Cell
  | .text b => Cell.numberIfSame b
  | c => c

def known (cells : List Cell) : List Cell := cells.filter fun c => !c.isNull

def total (cells : List Cell) : Float :=
  (known cells).foldl (fun sum c => sum + (number c).toFloat) 0.0

def sum (cells : List Cell) : Except Flaw Cell :=
  let numbers := (known cells).map number
  let add (sum? : Option Int) (c : Cell) : Option Int :=
    match sum?, c with
    | some sum, .integer n => if Number.fits (sum + n) then some (sum + n) else none
    | _, _ => none
  let isWhole := numbers.all fun c =>
    match c with
    | .integer _ => true
    | _ => false
  if numbers.isEmpty then .ok .null
  else
    match numbers.foldl add (some 0) with
    | some n => .ok (.integer n)
    | none => if isWhole then .error .integerOverflow else .ok (.ofFloat (total cells))

def average (cells : List Cell) : Cell :=
  let count := (known cells).length
  if count = 0 then .null else .ofFloat (total cells / Float.ofNat count)

def extreme (wanted : Ordering) (collation : Collation) (cells : List Cell) : Cell :=
  match known cells with
  | [] => .null
  | first :: rest =>
    rest.foldl (fun best c => if collation.compare c best == wanted then c else best) first

def joined (rows : List (List Cell)) : Cell :=
  match rows.filter fun r => !(r.headD .null).isNull with
  | [] => .null
  | first :: rest =>
    let separator (r : List Cell) : List Nat := (r[1]?.map Cell.bytes).getD [44]
    .text ((first.headD .null).bytes ++
      rest.flatMap fun r => separator r ++ (r.headD .null).bytes)

def takes? (name : String) : Option (Nat → Bool) :=
  match Token.lower name with
  | "count" => some (· ≤ 1)
  | "sum" | "total" | "avg" | "min" | "max" => some (· = 1)
  | "group_concat" => some fun n => n = 1 || n = 2
  | "json_group_array" => some (· = 1)
  | "json_group_object" => some (· = 2)
  | _ => none

def compares (name : String) : Bool := ["min", "max"].contains (Token.lower name)

def isCalled (name : String) (arguments : Nat) : Bool :=
  if compares name then arguments = 1 else (takes? name).isSome

def treeOf (isObject : Bool) (rows : List (List Argument)) : Except Flaw Cell := do
  let items ← rows.mapM fun r => Function.treeOf ((r[if isObject then 1 else 0]?).getD ⟨.null, false⟩)
  let labels := rows.map fun r => Json.escape ((r.head?.map fun a => a.cell.bytes).getD [])
  return .text (if isObject then Json.object labels items else .array items).text

def givesTree (name : String) : Bool := (Token.lower name).startsWith "json"

def apply (name : String) (collation : Collation) (given : List (List Argument)) :
    Except Flaw Cell :=
  let rows := given.map fun r => r.map Argument.cell
  let cells := rows.map fun r => r.headD .null
  match Token.lower name with
  | "count" =>
    .ok (.integer (if rows.all List.isEmpty then rows.length else (known cells).length))
  | "sum" => sum cells
  | "total" => .ok (.ofFloat (total cells))
  | "avg" => .ok (average cells)
  | "min" => .ok (extreme .lt collation cells)
  | "max" => .ok (extreme .gt collation cells)
  | "json_group_array" => treeOf false given
  | "json_group_object" => treeOf true given
  | _ => .ok (joined rows)

end Motif.Sql.Aggregate
