import Motif.Sql.Function.Changing
import Motif.Sql.Function.Times
import Motif.Sql.Function.Trees
import Motif.Sql.Function.Values

/-!
The functions of values that expressions may call.
-/

set_option autoImplicit false

namespace Motif.Sql.Function

open Database (Cell)

/-- The function of a name. -/
def named? (name : String) : Option Function :=
  let one (n : Nat) : Bool := n = 1
  let two (n : Nat) : Bool := n = 2
  let oneOrTwo (n : Nat) : Bool := n = 1 || n = 2
  let twoOrThree (n : Nat) : Bool := n = 2 || n = 3
  let name := Token.lower name
  match name with
  | "abs" => some (ofOne absolute)
  | "char" => some (plain (fun _ => true) fun a => .ok (ofCodes a))
  | "glob" => some (strict two fun a => .ok (glob a))
  | "hex" => some (plain one fun a => .ok (.text (hex (a.flatMap Cell.bytes))))
  | "instr" => some (strict two fun a => .ok (position a))
  | "length" => some (ofOne fun c => .ok (length c))
  | "like" => some (strict twoOrThree like)
  | "likelihood" => some (plain two fun a => .ok (a.headD .null))
  | "likely" | "unlikely" => some (plain one fun a => .ok (a.headD .null))
  | "lower" => some (ofOne fun c => .ok (.text (c.bytes.map Collation.lowerByte)))
  | "upper" => some (ofOne fun c => .ok (.text (c.bytes.map Collation.upperByte)))
  | "ltrim" => some (strict oneOrTwo fun a => .ok (trim true false a))
  | "rtrim" => some (strict oneOrTwo fun a => .ok (trim false true a))
  | "trim" => some (strict oneOrTwo fun a => .ok (trim true true a))
  | "max" => some (comparing (2 ≤ ·) (extreme .gt))
  | "min" => some (comparing (2 ≤ ·) (extreme .lt))
  | "nullif" => some (comparing two fun c a =>
      match a with
      | [x, y] => if c.compare x y == .eq then .null else x
      | _ => .null)
  | "printf" => some (plain (fun _ => true) fun a => .ok (Format.ofValues a))
  | "quote" => some (plain one fun a => .ok (quote (a.headD .null)))
  | "replace" => some (strict (· = 3) fun a =>
      match a with
      | [c, wanted, other] => .ok (.text (replaceAll wanted.bytes other.bytes c.bytes))
      | _ => .ok .null)
  | "round" => some (strict oneOrTwo fun a => .ok (round a))
  | "sign" => some (ofOne fun c => .ok (signOf c))
  | "soundex" => some (plain one fun a => .ok (soundex (a.headD .null)))
  | "sqlite_log" => some (plain two fun _ => .ok .null)
  | "substr" | "substring" => some (strict twoOrThree fun a => .ok (substring a))
  | "typeof" => some (plain one fun a => .ok (.ofText (a.headD .null).typeName))
  | "unicode" => some (ofOne fun c => .ok (codeOf c))
  | "zeroblob" => some (plain one fun a =>
      .ok (.blob (List.replicate (a.headD .null).toInt.toNat 0)))
  | _ => ((ofTrees? name).or (ofTimes? name)).or (changing? name)

def isLazy (name : String) : Bool := ["coalesce", "ifnull", "iif"].contains (Token.lower name)

def lazyTakes (name : String) (n : Nat) : Bool :=
  match Token.lower name with
  | "coalesce" => 2 ≤ n
  | "ifnull" => n = 2
  | _ => n = 3

end Motif.Sql.Function
