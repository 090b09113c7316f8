import Motif.Database.Error
import Motif.Files.Path

/-!
Where a database is: the path of a file, or an address `file:` with a path and options behind it.
In an address two hexadecimal digits behind a percent sign stand for a byte, and text behind a
`#` is dropped.
-/

set_option autoImplicit false

namespace Motif.Database

open Files

/-- What may be done with a database. One in memory belongs to nobody else. -/
inductive Access where
  | readOnly
  | readWrite
  | create
  | inMemory
deriving DecidableEq

/-- Whether an access mode may take the place of another one. A database in memory can become
any other. -/
def Access.allows : Access → Access → Bool
  | _, .inMemory => true
  | .inMemory, _ => true
  | .readOnly, mode => mode == .readOnly
  | .readWrite, mode => mode != .create
  | .create, _ => true

/-- How a file is locked. -/
inductive Locking where
  | standard
  | exclusive
  | lockFile
  | none
deriving DecidableEq

structure Location where
  path : Path
  access : Access
  locking : Locking
  /-- The file cannot change, so that nothing beside it matters. -/
  immutable : Bool
  owner? : Option Path
deriving DecidableEq

namespace Location

/-- A byte of an address, and whether it was written by its digits. -/
structure Symbol where
  byte : Nat
  escaped : Bool
deriving DecidableEq

def hexValue? (b : Nat) : Option Nat :=
  if 48 ≤ b ∧ b ≤ 57 then some (b - 48)
  else if 65 ≤ b ∧ b ≤ 70 then some (b - 55)
  else if 97 ≤ b ∧ b ≤ 102 then some (b - 87)
  else none

def percent : Nat := 37

def numberSign : Nat := 35

def escaped? (b : Nat) (rest : List Nat) : Option Nat :=
  match rest with
  | high :: low :: _ =>
    if b = percent then do return 16 * (← hexValue? high) + (← hexValue? low) else none
  | _ => none

/-- The symbols in front of a number sign, after some bytes that have been read already. -/
def symbols : Nat → List Nat → List Symbol
  | _, [] => []
  | read + 1, _ :: rest => symbols read rest
  | 0, b :: rest =>
    if b = numberSign then []
    else
      match escaped? b rest with
      | some byte => ⟨byte, true⟩ :: symbols 2 rest
      | none => ⟨b, false⟩ :: symbols 0 rest

def Symbol.plain (c : Char) : Symbol := ⟨c.toNat, false⟩

def bytes (symbols : List Symbol) : List Nat :=
  (symbols.takeWhile fun s => s.byte ≠ 0).map Symbol.byte

def options (symbols : List Symbol) : List (List Nat × List Nat) :=
  (symbols.splitOn (.plain '&')).filterMap fun option =>
    let name := bytes (option.takeWhile (· ≠ .plain '='))
    let value := bytes ((option.dropWhile (· ≠ .plain '=')).drop 1)
    if name.isEmpty then none else some (name, value)

def accessModes : List (Path × Access) :=
  [("ro", .readOnly), ("rw", .readWrite), ("rwc", .create), ("memory", .inMemory)].map
    fun m => (Path.ofString m.1, m.2)

def cacheModes : List Path := ["shared", "private"].map Path.ofString

def lockings : List (Path × Locking) :=
  [("unix", .standard), ("unix-excl", .exclusive), ("unix-dotfile", .lockFile),
    ("unix-none", .none)].map fun s => (Path.ofString s.1, s.2)

def applyMode (access : Access) (option : List Nat × List Nat) : Except Error Access :=
  if option.1 = Path.ofString "cache" then
    if cacheModes.contains option.2 then .ok access
    else .error (.unknownMode "cache" (Text.Utf8.text option.2))
  else if option.1 = Path.ofString "mode" then
    match accessModes.lookup option.2 with
    | none => .error (.unknownMode "access" (Text.Utf8.text option.2))
    | some mode =>
      if access.allows mode then .ok mode
      else .error (.forbiddenMode (Text.Utf8.text option.2))
  else .ok access

def lockingOf (options : List (List Nat × List Nat)) : Except Error Locking :=
  match options.reverse.lookup (Path.ofString "vfs") with
  | none => .ok .standard
  | some name =>
    match lockings.lookup name with
    | some locking => .ok locking
    | none => .error (.unknownSystem (Text.Utf8.text name))

def lowercase (b : Nat) : Nat := if 65 ≤ b ∧ b ≤ 90 then b + 32 else b

def isDigit (b : Nat) : Bool := 48 ≤ b && b ≤ 57

def smallNumber (digits : List Nat) : Nat :=
  let value := digits.foldl (fun n b => 10 * n + (b - 48)) 0
  if value < 0x80000000 then value else 0

def isOn (value : List Nat) : Bool :=
  let digits := value.takeWhile isDigit
  if digits.isEmpty then
    (["on", "yes", "true"].map Path.ofString).contains (value.map lowercase)
  else smallNumber digits % 256 ≠ 0

def switch (options : List (List Nat × List Nat)) (name : String) : Bool :=
  match options.lookup (Path.ofString name) with
  | some value => isOn value
  | none => false

def afterHost (address : List Nat) : Except Error (List Nat) :=
  match address with
  | 47 :: 47 :: rest =>
    let host := rest.takeWhile (· ≠ Path.slash)
    if host.isEmpty ∨ host = Path.ofString "localhost" then
      .ok (rest.dropWhile (· ≠ Path.slash))
    else .error (.foreignAuthority (Text.Utf8.text host))
  | _ => .ok address

def scheme : List Nat := Path.ofString "file:"

def ofAddress (address : List Nat) : Except Error Location := do
  let symbols := symbols 0 (← afterHost address)
  let path := bytes (symbols.takeWhile (· ≠ .plain '?'))
  let options := options ((symbols.dropWhile (· ≠ .plain '?')).drop 1)
  let access ← options.foldlM applyMode .readOnly
  let locking ← lockingOf options
  let unlocked := switch options "nolock"
  let owner? := options.lookup (Path.ofString "modeof")
  return ⟨path, access, if unlocked then .none else locking, switch options "immutable", owner?⟩

def ofName (name : List Nat) : Except Error Location :=
  if scheme.isPrefixOf name then ofAddress (name.drop scheme.length)
  else .ok ⟨name, .readOnly, .standard, false, none⟩

def memoryName : Path := Path.ofString ":memory:"

def isTransient (l : Location) : Bool :=
  l.access == .inMemory || l.path.isEmpty || l.path == memoryName

end Location

end Motif.Database
