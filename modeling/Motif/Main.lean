import Motif.Command.Run

/-!
The program on a real machine: reads the files that the command line names and prints the result,
or tells on the error stream why there is none.
-/

set_option autoImplicit false

namespace Motif.Command

/-- Lists are intersected without wide instructions. -/
def plainProcessor : Intersection.Processor := ⟨false, false, false⟩

/-- The number by which the system tells that a path leads to a directory. -/
def directoryCode : UInt32 := 21

def causeOf : IO.Error → Files.Error
  | .inappropriateType _ code _ => if code = directoryCode then .noBytes else .notADirectory
  | .invalidArgument _ _ _ => .nameTooLong
  | _ => .notFound

def readContent (path : Files.Path) : IO (Except Files.Error Files.Content) := do
  try
    let bytes ← IO.FS.readBinFile (Text.Utf8.text path)
    return .ok (.bytes (bytes.toList.map UInt8.toNat))
  catch e => return .error (causeOf e)

/-- The files that loading the graphs of a command line may look at. -/
def readDisk (arguments : List String) : IO Files.Disk := do
  let here ← IO.currentDir
  let named := ((Invocation.read? arguments).map fun i => i.request.files).getD []
  let paths := named.flatMap fun file => Files.consulted (Files.Path.ofString file)
  let contents ← paths.mapM fun path => do return (path, ← readContent path)
  return ⟨fun path => (contents.lookup path).getD (.error .notFound), here.toString.utf8ByteSize⟩

end Motif.Command

open Motif.Command in
def main (arguments : List String) : IO UInt32 := do
  match run plainProcessor (← readDisk arguments) arguments with
  | .ok printed =>
    IO.print printed
    return 0
  | .error failure =>
    IO.eprintln ("Error: " ++ failure.inspect)
    return 1
