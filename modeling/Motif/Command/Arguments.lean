/-!
Command lines. A line names one of three commands with the files it works on; options and flags
may stand anywhere behind the name of their command, the number of threads before it too. Flags
and options are given once at most. After two hyphens alone every argument is a file.
-/

set_option autoImplicit false

namespace Motif.Command

/-- What a command accepts: how many files, and which long names, a flag standing alone and an
option taking a value. -/
structure Grammar where
  files : Nat
  flags : List String
  options : List String

/-- What was given: files and flags, and the values of options by name. -/
structure Given where
  files : List String := []
  flags : List String := []
  values : List (String × String) := []

namespace Given

def addFlag (g : Given) (name : String) : Option Given :=
  if g.flags.contains name then none else some { g with flags := name :: g.flags }

def addValue (g : Given) (name value : String) : Option Given :=
  if (g.values.lookup name).isSome then none
  else some { g with values := (name, value) :: g.values }

def addFile (g : Given) (file : String) : Given := { g with files := g.files ++ [file] }

end Given

/-- An argument by its form. A lone hyphen is a file, and so is every argument that does not
begin with one. -/
inductive Form where
  | file
  | fileMark
  | long (name : String) (value : Option String)
  | short

/-- The long name of an argument without hyphens in front, and what stands behind the first
equals sign; further equals signs in front of the value are dropped. -/
def longForm (cs : List Char) : Form :=
  let body := cs.dropWhile (· = '-')
  let name := body.takeWhile (· ≠ '=')
  match body.dropWhile (· ≠ '=') with
  | [] => .long (String.ofList name) none
  | value => .long (String.ofList name) (some (String.ofList (value.dropWhile (· = '='))))

def Form.of (argument : String) : Form :=
  match argument.toList with
  | ['-', '-'] => .fileMark
  | '-' :: '-' :: cs => longForm cs
  | ['-'] => .file
  | '-' :: _ => .short
  | _ => .file

/-- Reads arguments by a grammar, up to the first file that `stop` accepts; gives what was read,
and that file with the arguments behind it. A value that stands alone must not begin with a
hyphen, unless it is one. -/
def readArguments (grammar : Grammar) (stop : String → Bool) (given : Given) :
    List String → Option (Given × List String)
  | [] => some (given, [])
  | argument :: rest =>
    match Form.of argument with
    | .short => none
    | .fileMark => some ({ given with files := given.files ++ rest }, [])
    | .file =>
      if stop argument then some (given, argument :: rest)
      else readArguments grammar stop (given.addFile argument) rest
    | .long name value? =>
      if grammar.options.contains name then
        match value? with
        | some value => do readArguments grammar stop (← given.addValue name value) rest
        | none =>
          match rest with
          | [] => none
          | value :: rest =>
            match Form.of value with
            | .file => do readArguments grammar stop (← given.addValue name value) rest
            | _ => none
      else if grammar.flags.contains name then do
        readArguments grammar stop (← given.addFlag name) rest
      else none

/-- What the program is asked to do. Numbers are kept as they are written. -/
inductive Request where
  | info (file : String)
  | triangles (file : String) (perVertex keepIds : Bool) (threshold? : Option String)
  | matching (target pattern : String) (nonInduced print : Bool) (bound? : Option String)

def Request.files : Request → List String
  | .info file => [file]
  | .triangles file _ _ _ => [file]
  | .matching target pattern _ _ _ => [target, pattern]

structure Invocation where
  threads? : Option String
  request : Request

def outerGrammar : Grammar := ⟨0, [], ["threads"]⟩

def infoGrammar : Grammar := ⟨1, [], ["threads"]⟩

def trianglesGrammar : Grammar := ⟨1, ["local", "no-relabel"], ["threads", "threshold"]⟩

def matchGrammar : Grammar := ⟨2, ["non-induced", "print"], ["threads", "max"]⟩

def grammar? (command : String) : Option Grammar :=
  if command = "info" then some infoGrammar
  else if command = "triangles" then some trianglesGrammar
  else if command = "match" then some matchGrammar
  else none

/-- The request that a command makes with what it was given. -/
def request? (command : String) (given : Given) : Option Request :=
  match command, given.files with
  | "info", [file] => some (.info file)
  | "triangles", [file] =>
    some (.triangles file (given.flags.contains "local") (given.flags.contains "no-relabel")
      (given.values.lookup "threshold"))
  | "match", [target, pattern] =>
    some (.matching target pattern (given.flags.contains "non-induced")
      (given.flags.contains "print") (given.values.lookup "max"))
  | _, _ => none

/-- Reads a command line; none if it is not understood. The number of threads behind the command
counts before the one in front. -/
def Invocation.read? (arguments : List String) : Option Invocation := do
  let (outer, rest) ← readArguments outerGrammar (fun _ => true) {} arguments
  match outer.files, rest with
  | [], command :: arguments =>
    let grammar ← grammar? command
    let (inner, _) ← readArguments grammar (fun _ => false) {} arguments
    let request ← request? command inner
    return ⟨inner.values.lookup "threads" <|> outer.values.lookup "threads", request⟩
  | _, _ => none

end Motif.Command
