import Motif.Text.Utf8

/-!
Paths: bytes that slashes cut into parts. The name a path ends in tells by its extension whether
it is the name of a database.
-/

set_option autoImplicit false

namespace Motif.Files

/-- The bytes of a path. -/
abbrev Path := List Nat

namespace Path

def slash : Nat := 47

def dot : Nat := 46

def ofString (path : String) : Path := Text.Utf8.encode path

def parts (p : Path) : List Path := p.splitOn slash

def join (parts : List Path) : Path := [slash].intercalate parts

def isAbsolute (p : Path) : Bool := p.head? == some slash

/-- A part that leads nowhere: nothing between two slashes, or a dot. -/
def staysPut (part : Path) : Bool := part == [] || part == [dot]

def climbs (part : Path) : Bool := part == [dot, dot]

def parent (p : Path) : Path := join (p.parts.dropLast ++ [[dot]])

def fileName? (p : Path) : Option Path :=
  match (p.parts.reverse.dropWhile staysPut).head? with
  | none => none
  | some name => if name.climbs then none else some name

/-- What follows the last dot of a name. A dot at its front alone marks no extension. -/
def extension? (name : Path) : Option Path :=
  let backward := name.reverse
  match backward.dropWhile (· ≠ dot) with
  | [] => none
  | _ :: front => if front.isEmpty then none else some (backward.takeWhile (· ≠ dot)).reverse

def databaseExtensions : List Path := ["db", "sqlite", "sqlite3"].map ofString

def isDatabase (p : Path) : Bool :=
  match p.fileName?.bind extension? with
  | some extension => databaseExtensions.contains extension
  | none => false

def zeroPosition? (p : Path) : Option Nat := p.findIdx? (· == 0)

/-- Takes one more part behind others, the latest first. To climb takes the latest name back;
at a root it changes nothing, and above a relative path it stays. -/
def settle (absolute : Bool) (settled : List Path) (part : Path) : List Path :=
  if part.staysPut then settled
  else if part.climbs then
    match settled with
    | [] => if absolute then [] else [part]
    | name :: more => if name.climbs then part :: settled else more
  else part :: settled

/-- The path with its climbs taken back by the names before them. Its last part stays as it is,
so that a path that has to end in a directory still does. -/
def straighten (p : Path) : Path :=
  let settled := p.parts.dropLast.foldl (settle p.isAbsolute) []
  let last := p.parts.getLast?.getD []
  let start :=
    if p.isAbsolute then [[]] else if settled.isEmpty && last.isEmpty then [[dot]] else []
  join (start ++ settled.reverse ++ [last])

end Path

end Motif.Files
