import Motif.Database.Error

/-!
The file of a database: pages of one size, the first of which begins with a header. What lies
behind the end of the file is read as zeros.
-/

set_option autoImplicit false

namespace Motif.Database

/-- How texts are written in bytes. -/
inductive Encoding where
  | utf8
  | utf16Little
  | utf16Big
deriving DecidableEq

/-- A file and its measures. The last bytes of each page may be kept free, but `usable` ones are
left at least. -/
structure Image where
  bytes : Array Nat
  pageSize : Nat
  usable : Nat
  pageCount : Nat
  /-- Nothing is ever written to the file. -/
  isFixed : Bool
  usable_ge : 480 ≤ usable

namespace Image

def byteAt (bytes : Array Nat) (position : Nat) : Nat := bytes[position]?.getD 0

def numberAt (bytes : Array Nat) (position size : Nat) : Nat :=
  (List.range size).foldl (fun n i => 256 * n + byteAt bytes (position + i)) 0

def magic : List Nat :=
  [83, 81, 76, 105, 116, 101, 32, 102, 111, 114, 109, 97, 116, 32, 51, 0]

def fileHeaderSize : Nat := 100

def pageSizes : List Nat := [512, 1024, 2048, 4096, 8192, 16384, 32768, 65536]

def plainPageSize : Nat := 4096

def statedPageSize? (bytes : Array Nat) : Option Nat :=
  let size := 256 * byteAt bytes 16 + 65536 * byteAt bytes 17
  if pageSizes.contains size then some size else none

def filePages (bytes : Array Nat) : Nat :=
  let size := (statedPageSize? bytes).getD plainPageSize
  (bytes.size + size - 1) / size

def statedPages? (bytes : Array Nat) : Option Nat :=
  let count := numberAt bytes 28 4
  if count = 0 ∨ numberAt bytes 24 4 ≠ numberAt bytes 92 4 then none else some count

def payloadShares : List Nat := [64, 32, 32]

def latestVersion : Nat := 2

/-- Reads the header. Files of version 2 need a log beside them, and those of which a later version
is to be written are only read. A log may tell how many pages there are. -/
def ofBytes (logAllowed isFixed : Bool) (logged? : Option Nat) (bytes : Array Nat) :
    Except Error Image :=
  let version := byteAt bytes 19
  if (List.range 16).map (byteAt bytes) ≠ magic then .error .notADatabase
  else if latestVersion < version then .error .notADatabase
  else if version = latestVersion ∧ !logAllowed then .error (.cannotOpen none)
  else if [21, 22, 23].map (byteAt bytes) ≠ payloadShares then .error .notADatabase
  else
    match statedPageSize? bytes with
    | none => .error .notADatabase
    | some pageSize =>
      let found := logged?.getD (filePages bytes)
      let pageCount := (statedPages? bytes).getD found
      let usable := pageSize - byteAt bytes 20
      if found < pageCount then .error .malformed
      else if h : 480 ≤ usable then
        .ok ⟨bytes, pageSize, usable, pageCount, isFixed || latestVersion < byteAt bytes 18, h⟩
      else .error .notADatabase

def byte (im : Image) (position : Nat) : Nat := byteAt im.bytes position

def number (im : Image) (position size : Nat) : Nat := numberAt im.bytes position size

def slice (im : Image) (position count : Nat) : List Nat :=
  (List.range count).map fun i => im.byte (position + i)

def pageStart (im : Image) (page : Nat) : Nat := (page - 1) * im.pageSize

def hasPage (im : Image) (page : Nat) : Bool := 0 < page && page ≤ im.pageCount

def encoding (im : Image) : Encoding :=
  match im.byte 59 % 4 with
  | 2 => .utf16Little
  | 3 => .utf16Big
  | _ => .utf8

def latestFormat : Nat := 4

def formatSupported (im : Image) : Bool := im.byte 47 ≤ latestFormat

def overflowRoom (im : Image) : Nat := im.usable - 4

def overflow (im : Image) (page count : Nat) : Except Error (List Nat) :=
  if !im.hasPage page then .error .malformed
  else
    let start := im.pageStart page
    if count ≤ im.overflowRoom then .ok (im.slice (start + 4) count)
    else do
      let behind ← im.overflow (im.number start 4) (count - im.overflowRoom)
      return im.slice (start + 4) im.overflowRoom ++ behind
termination_by count
decreasing_by
  have := im.usable_ge
  simp only [overflowRoom] at *
  omega

end Image

end Motif.Database
