import Motif.Database.Layout
import Motif.Files.Error
import Motif.Files.Path

/-!
The files that paths lead to. A path is walked part by part from the working directory or from
the root; only the files in the working directory are known by name.
-/

set_option autoImplicit false

namespace Motif.Files

/-- A file is given by its bytes, or as a database by its tables. -/
inductive Content where
  | bytes (bytes : List Nat)
  | database (tables : List Database.Table)

def Content.toBytes : Content → List Nat
  | .bytes held => held
  | .database tables => Database.Layout.bytes tables

def Content.isEmpty : Content → Bool
  | .bytes held => held.isEmpty
  | .database tables => tables.isEmpty

/-- A file of one byte counts as empty where a database is looked for. -/
def Content.holdsNoPage : Content → Bool
  | .bytes held => held.length ≤ 1
  | .database tables => tables.isEmpty

/-- How paths are looked up. -/
abbrev Finder := Path → Except Error Content

/-- The files in the working directory, which has no directories in it. -/
abbrev Directory := List (Path × Content)

/-- A name longer than this many bytes belongs to no file. -/
def nameLimit : Nat := 255

/-- A path of this many bytes or more belongs to no file. -/
def pathLimit : Nat := 4096

/-- Where a path has led to. -/
inductive Place where
  | here
  | root
  | devices
  /-- A directory in which no name is known. -/
  | elsewhere
  | file (content : Content)

def rootDirectories : List Path :=
  ["bin", "etc", "home", "lib", "root", "tmp", "usr", "var"].map Path.ofString

def devicesName : Path := Path.ofString "dev"

def nullName : Path := Path.ofString "null"

namespace Directory

def above : Place → Place
  | .here | .elsewhere => .elsewhere
  | _ => .root

def look (d : Directory) (place : Place) (name : Path) : Except Error Place :=
  match place with
  | .here =>
    match d.lookup name with
    | some content => .ok (.file content)
    | none => .error .notFound
  | .root =>
    if name = devicesName then .ok .devices
    else if rootDirectories.contains name then .ok .elsewhere
    else .error .notFound
  | .devices => if name = nullName then .ok (.file (.bytes [])) else .error .notFound
  | .elsewhere => .error .notFound
  | .file _ => .error .notADirectory

/-- Follows one part of a path. Nothing can follow a file, not even an empty part. -/
def step (d : Directory) (place : Place) (part : Path) : Except Error Place :=
  match place with
  | .file _ => .error .notADirectory
  | _ =>
    if part.staysPut then .ok place
    else if part.climbs then .ok (above place)
    else if nameLimit < part.length then .error .nameTooLong
    else d.look place part

def walk (d : Directory) (p : Path) : Except Error Place :=
  if p.isEmpty then .error .notFound
  else if pathLimit ≤ p.length then .error .nameTooLong
  else p.parts.foldlM d.step (if p.isAbsolute then .root else .here)

def find (d : Directory) : Finder := fun p => do
  match ← d.walk p with
  | .file content => return content
  | _ => .error .noBytes

end Directory

end Motif.Files
