import Motif.Command.Number
import Motif.Error
import Motif.Text.Quoted

/-!
How the program tells why it stopped: the category of the error and its parts, written as
constructors.
-/

set_option autoImplicit false

namespace Motif

open Text

def record (name : String) (fields : List (String × String)) : String :=
  let body := ", ".intercalate (fields.map fun f => f.1 ++ ": " ++ f.2)
  name ++ " \x7b " ++ body ++ " \x7d"

def Files.Error.inspect (e : Files.Error) : String :=
  match e.code? with
  | some code =>
    record "Os" [("code", toString code), ("kind", e.kind), ("message", quote e.description)]
  | none => record "Error" [("kind", e.kind), ("message", quote e.description)]

namespace Database.Error

/-- The name and the number of the failure, where the database engine reports one. -/
def engineCode? : Error → Option (String × Nat)
  | .query _ | .unsupportedFormat | .foreignAuthority _ | .unknownMode _ _
  | .unknownSystem _ => some ("Unknown", 1)
  | .forbiddenMode _ => some ("PermissionDenied", 3)
  | .unfinishedJournal => some ("ReadOnly", 776)
  | .readFailed => some ("SystemIoFailure", 10)
  | .malformed | .malformedSchema _ _ => some ("DatabaseCorrupt", 11)
  | .cannotOpen _ => some ("CannotOpen", 14)
  | .notADatabase => some ("NotADatabase", 26)
  | .wrongStorage _ _ _ | .idOutOfRange _ _ | .zeroInPath _ _ => none

def inspect (e : Error) : String :=
  match e with
  | .wrongStorage found index column =>
    s!"InvalidColumnType({index}, {quote column}, {found.name})"
  | .idOutOfRange value index => s!"IntegralValueOutOfRange({index}, {value})"
  | .zeroInPath position path =>
    let bytes := ", ".intercalate (path.toUTF8.toList.map toString)
    s!"NulError(NulError({position}, [{bytes}]))"
  | _ =>
    match e.engineCode? with
    | some (code, number) =>
      let failure := record "Error" [("code", code), ("extended_code", toString number)]
      s!"SqliteFailure({failure}, Some({quote e.message}))"
    | none => e.message

end Database.Error

def Error.inspect (e : Error) : String :=
  let parts :=
    match e with
    | .file cause => cause.inspect
    | .database cause => cause.inspect
    | _ => quote e.detail
  match e.category? with
  | some category => s!"{category.name}({parts})"
  | none => parts

namespace Command

/-- Why the program printed no result: it was not understood, a number is none, or an operation
failed. -/
inductive Failure where
  | usage
  | number (cause : NumberError)
  | operation (cause : Error)
deriving DecidableEq

def Failure.inspect : Failure → String
  | .usage => "usage"
  | .number cause => record "ParseIntError" [("kind", cause.name)]
  | .operation cause => cause.inspect

end Command

end Motif
