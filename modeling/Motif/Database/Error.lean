import Motif.Sql.Flaw

/-!
What can go wrong when an edge table is read from a database: the name of the database says
something impossible, no file can be opened, the file holds no database, or the edge table does
not hold ids.
-/

set_option autoImplicit false

namespace Motif.Database

open Sql (Flaw)

/-- The storage classes of cells that hold no integer. -/
inductive Storage where
  | null
  | real
  | text
  | blob
deriving DecidableEq

def Storage.name : Storage → String
  | .null => "Null"
  | .real => "Real"
  | .text => "Text"
  | .blob => "Blob"

/-- A cell is named by the place of its column in the query; a path with a zero character inside
names no file, and `position` is the first of them in the path's bytes. A failure to open a
database tells its path, unless it comes up after the file itself has been opened. -/
inductive Error where
  | query (flaw : Flaw)
  | wrongStorage (found : Storage) (index : Nat) (column : String)
  | idOutOfRange (value : Int) (index : Nat)
  | cannotOpen (path? : Option String)
  | readFailed
  | notADatabase
  | unsupportedFormat
  | malformed
  | malformedSchema (object : String) (reason? : Option Flaw)
  | unfinishedJournal
  | foreignAuthority (host : String)
  | unknownMode (kind value : String)
  | forbiddenMode (value : String)
  | unknownSystem (name : String)
  | zeroInPath (position : Nat) (path : String)
deriving DecidableEq

def Error.message : Error → String
  | .query flaw => flaw.message
  | .wrongStorage found index column =>
    s!"Invalid column type {found.name} at index: {index}, name: {column}"
  | .idOutOfRange value index => s!"Integer {value} out of range at index {index}"
  | .cannotOpen (some path) => s!"unable to open database file: {path}"
  | .cannotOpen none => "unable to open database file"
  | .readFailed => "disk I/O error"
  | .notADatabase => "file is not a database"
  | .unsupportedFormat => "unsupported file format"
  | .malformed => "database disk image is malformed"
  | .malformedSchema object none => s!"malformed database schema ({object})"
  | .malformedSchema object (some reason) =>
    s!"malformed database schema ({object})" ++
      if reason.message.isEmpty then "" else s!" - {reason.message}"
  | .unfinishedJournal => "attempt to write a readonly database"
  | .foreignAuthority host => s!"invalid uri authority: {host}"
  | .unknownMode kind value => s!"no such {kind} mode: {value}"
  | .forbiddenMode value => s!"access mode not allowed: {value}"
  | .unknownSystem name => s!"no such vfs: {name}"
  | .zeroInPath position _ => s!"nul byte found in provided data at position: {position}"

end Motif.Database
