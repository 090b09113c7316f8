import Motif.Database.Image

/-!
The log beside a database: pages that have been written since, one behind the other. Each is held by
a frame, and counts if all sums up to it are right and the change that it belongs to was finished.
-/

set_option autoImplicit false

namespace Motif.Database

/-- A frame: which page it holds, how many pages the database has if the frame ends a change, and
where the content begins. -/
structure Log.Frame where
  page : Nat
  pageCount : Nat
  start : Nat

/-- The frames of the changes that were finished. -/
structure Log where
  bytes : Array Nat
  pageSize : Nat
  frames : List Log.Frame

namespace Log

def headerSize : Nat := 32

def frameHeaderSize : Nat := 24

def magic : Nat := 0x377f0682

def version : Nat := 3007000

def number (bytes : Array Nat) (position : Nat) : Nat := Image.numberAt bytes position 4

def word (isBig : Bool) (bytes : Array Nat) (position : Nat) : Nat :=
  if isBig then number bytes position
  else (List.range 4).foldr (fun i n => 256 * n + Image.byteAt bytes (position + i)) 0

def checksum (isBig : Bool) (bytes : Array Nat) : Nat → Nat → Nat × Nat → Nat × Nat
  | 0, _, sums => sums
  | pairs + 1, position, (a, b) =>
    let a := (a + word isBig bytes position + b) % 0x100000000
    let b := (b + word isBig bytes (position + 4) + a) % 0x100000000
    checksum isBig bytes pairs (position + 8) (a, b)

def sumsAt (bytes : Array Nat) (position : Nat) : Nat × Nat :=
  (number bytes position, number bytes (position + 4))

/-- The frames from a position on, up to the first that is not right. -/
def scan (isBig : Bool) (bytes : Array Nat) (pageSize : Nat) :
    Nat → Nat → Nat × Nat → List Frame
  | 0, _, _ => []
  | count + 1, position, sums =>
    let content := position + frameHeaderSize
    let page := number bytes position
    let sums := checksum isBig bytes 1 position sums
    let sums := checksum isBig bytes (pageSize / 8) content sums
    let isRight := sumsAt bytes (position + 8) == sumsAt bytes 16 && page ≠ 0 &&
      sumsAt bytes (position + 16) == sums
    if isRight then
      ⟨page, number bytes (position + 4), content⟩ ::
        scan isBig bytes pageSize count (content + pageSize) sums
    else []

def finished (frames : List Frame) : List Frame :=
  (frames.reverse.dropWhile fun f => f.pageCount = 0).reverse

/-- Reads a log. What is none is passed over, but not one of another version. -/
def ofBytes? (bytes : Array Nat) : Except Error (Option Log) :=
  let pageSize := number bytes 8
  let isBig := number bytes 0 % 2 = 1
  let sums := checksum isBig bytes 3 0 (0, 0)
  if bytes.size ≤ headerSize ∨ number bytes 0 - number bytes 0 % 2 ≠ magic ∨
      !Image.pageSizes.contains pageSize ∨ sumsAt bytes 24 ≠ sums then
    .ok none
  else if number bytes 4 ≠ version then .error (.cannotOpen none)
  else
    let count := (bytes.size - headerSize) / (pageSize + frameHeaderSize)
    let frames := finished (scan isBig bytes pageSize count headerSize sums)
    .ok (if frames.isEmpty then none else some ⟨bytes, pageSize, frames⟩)

def pageCount (l : Log) : Nat := (l.frames.getLast?.map Frame.pageCount).getD 0

def page? (l : Log) (page : Nat) : Option (List Nat) :=
  (l.frames.reverse.find? fun f => f.page = page).map fun f =>
    (l.bytes.extract f.start (f.start + l.pageSize)).toList

/-- The bytes of a database with the pages of the log. Pages that are neither in the file nor in the
log have no bytes. -/
def writtenOver (l : Log) (file : Array Nat) : Array Nat :=
  let first := ((l.page? 1).map List.toArray).getD file
  let size := (Image.statedPageSize? first).getD l.pageSize
  let count := min l.pageCount (Image.filePages file + l.frames.length)
  let page (i : Nat) : List Nat :=
    let start := i * size
    let held := (l.page? (i + 1)).getD (file.extract start (start + size)).toList
    (held ++ List.replicate (size - held.length) 0).take size
  ((List.range count).flatMap page).toArray

end Log

end Motif.Database
