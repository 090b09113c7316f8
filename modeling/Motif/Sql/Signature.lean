import Motif.Sql.Constant
import Motif.Sql.Function
import Motif.Sql.Windowed

/-!
What is known of functions by their names, and what is wrong with calls of them.
-/

set_option autoImplicit false

namespace Motif.Sql

/-- What a function is one of: values, all rows of a group, or the rows around a row. -/
inductive Role where
  | value
  | aggregate
  | window
deriving DecidableEq

/-- A function as it is called with some number of arguments. -/
structure Signature where
  role : Role
  /-- It takes so many. -/
  fits : Bool
  /-- Its value hangs on more than its arguments. -/
  changes : Bool

namespace Signature

def find? (name : String) (count : Nat) : Option Signature :=
  if Aggregate.isCalled name count then
    some ⟨.aggregate, (Aggregate.takes? name).any fun takes => takes count, false⟩
  else
    match Windowed.takes? name with
    | some takes => some ⟨.window, takes count, false⟩
    | none =>
      if Function.isLazy name then some ⟨.value, Function.lazyTakes name count, false⟩
      else (Function.named? name).map fun f => ⟨.value, f.takes count, f.changes⟩

end Signature

namespace Expr

variable {κ : Type}

def likelihoodFlaw? (name : String) (arguments : List (Expr κ)) : Option Flaw :=
  if Token.lower name ≠ "likelihood" ∨ arguments.length ≠ 2 then none
  else
    match arguments with
    | [_, .literal (.real digits)] =>
      let x := (Number.real (digits.toUTF8.toList.map UInt8.toNat)).2
      if 1.0 < x then some .likelihoodRange else none
    | _ => some .likelihoodRange

def callFlaw? (aggregates windows : Bool) (name : String) (arguments : List (Expr κ))
    (hasFilter hasWindow : Bool) : Option Flaw :=
  match Signature.find? name arguments.length with
  | none => some (.noSuchFunction name)
  | some s =>
    if hasWindow ∧ s.role = .value then some (.windowUse name)
    else if !s.fits then some (.argumentCount name)
    else if (s.role = .window ∨ hasWindow) ∧ s.role ≠ .value then
      if hasWindow ∧ windows then none else some (.misusedWindow name)
    else if s.role = .aggregate then if aggregates then none else some (.misusedAggregate name)
    else if hasFilter then some (.filterUse name)
    else likelihoodFlaw? name arguments

end Expr

end Motif.Sql
