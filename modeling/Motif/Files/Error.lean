/-!
What can go wrong when a file is opened.
-/

set_option autoImplicit false

namespace Motif.Files

inductive Error where
  | notFound
  | notADirectory
  | nameTooLong
  /-- The path names a directory, which holds no bytes to map. -/
  | noBytes
  | zeroInPath
deriving DecidableEq

/-- The number of the system error, where the system reports one. -/
def Error.code? : Error → Option Nat
  | .notFound => some 2
  | .notADirectory => some 20
  | .nameTooLong => some 36
  | .noBytes => some 19
  | .zeroInPath => none

def Error.kind : Error → String
  | .notFound => "NotFound"
  | .notADirectory => "NotADirectory"
  | .nameTooLong => "InvalidFilename"
  | .noBytes => "Uncategorized"
  | .zeroInPath => "InvalidInput"

def Error.description : Error → String
  | .notFound => "No such file or directory"
  | .notADirectory => "Not a directory"
  | .nameTooLong => "File name too long"
  | .noBytes => "No such device"
  | .zeroInPath => "file name contained an unexpected NUL byte"

def Error.message (e : Error) : String :=
  match e.code? with
  | some code => s!"{e.description} (os error {code})"
  | none => e.description

end Motif.Files
