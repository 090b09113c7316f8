import Motif.Database.Flow
import Motif.Database.Record

/-!
Trees of pages. The leaves of a table hold its rows in the order of their numbers; in an index
the inner pages hold entries between those of their children. The entries of a tree come in order,
up to the first page that cannot be read.
-/

set_option autoImplicit false

namespace Motif.Database

inductive TreeKind where
  | table
  | index
deriving DecidableEq

structure Page where
  number : Nat
  start : Nat
  /-- Where the header of the page begins: the first page has that of the file in front. -/
  header : Nat
  kind : TreeKind
  isLeaf : Bool
  cellCount : Nat

/-- A row of a table with its number, or an entry of an index, which has none. -/
structure Entry where
  number : Int
  payload : Payload

namespace Image

def pageKind? : Nat → Option (TreeKind × Bool)
  | 13 => some (.table, true)
  | 5 => some (.table, false)
  | 10 => some (.index, true)
  | 2 => some (.index, false)
  | _ => none

def page (im : Image) (number : Nat) : Except Error Page :=
  if !im.hasPage number then .error .malformed
  else
    let start := im.pageStart number
    let header := if number = 1 then start + fileHeaderSize else start
    let cellCount := im.number (header + 3) 2
    match pageKind? (im.byte header) with
    | none => .error .malformed
    | some (kind, isLeaf) =>
      if (im.pageSize - 8) / 6 < cellCount then .error .malformed
      else .ok ⟨number, start, header, kind, isLeaf, cellCount⟩

def child (im : Image) (kind : TreeKind) (number : Nat) : Except Error Page := do
  let page ← im.page number
  if page.kind = kind ∧ 0 < page.cellCount then return page else .error .malformed

def root (im : Image) (kind : TreeKind) (number : Nat) : Except Error Page := do
  let page ← im.page number
  if page.kind ≠ kind then .error .malformed
  else if page.cellCount = 0 ∧ !page.isLeaf ∧ number ≠ 1 then .error .malformed
  else return page

def cellStart (im : Image) (p : Page) (i : Nat) : Nat :=
  let pointers := p.header + if p.isLeaf then 8 else 12
  p.start + im.number (pointers + 2 * i) 2 % im.pageSize

def leftmostChild (im : Image) (p : Page) (i : Nat) : Nat := im.number (im.cellStart p i) 4

def rightmostChild (im : Image) (p : Page) : Nat := im.number (p.header + 8) 4

def share (im : Image) (part : Nat) : Nat := (im.usable - 12) * part / 255 - 23

/-- How much of a payload stays in its cell. What does not fit is cut so that the pages it goes on
are full, if that leaves little enough here. -/
def localSize (im : Image) (kind : TreeKind) (size : Nat) : Nat :=
  let most := if kind = .table then im.usable - 35 else im.share 64
  let least := im.share 32
  if size ≤ most then size
  else
    let kept := least + (size - least) % im.overflowRoom
    if kept ≤ most then kept else least

def payloadLimit : Nat := 0x100000000

def signed (n : Nat) : Int :=
  if n < 0x8000000000000000 then n else Int.ofNat (n % sizeLimit) - Int.ofNat sizeLimit

def entry (im : Image) (p : Page) (i : Nat) : Entry :=
  let start := im.cellStart p i + if p.isLeaf then 0 else 4
  let (stated, behind) := Varint.decode im.byte start
  let size := stated % payloadLimit
  let (number, content) :=
    if p.kind = .table then Varint.decode im.byte behind else (0, behind)
  let room := p.start + im.pageSize - content
  ⟨signed number, ⟨im, size, content, im.localSize p.kind size, room⟩⟩

/-- The entries of a page and of all pages below it, which has levels `below` it. -/
def entriesBelow (im : Image) : Nat → Page → Flow Entry
  | 0, p =>
    if p.isLeaf then .ofList ((List.range p.cellCount).map (im.entry p)) else .fail .malformed
  | below + 1, p =>
    if p.isLeaf then .ofList ((List.range p.cellCount).map (im.entry p))
    else
      let visit (number : Nat) : Flow Entry :=
        match im.child p.kind number with
        | .ok child => entriesBelow im below child
        | .error e => .fail e
      let inner := (Flow.ofList (List.range p.cellCount)).flatMap fun i =>
        (visit (im.leftmostChild p i)).append fun _ =>
          .ofList (if p.kind = .table then [] else [im.entry p i])
      inner.append fun _ => visit (im.rightmostChild p)

def mostLevels : Nat := 19

def entries (im : Image) (kind : TreeKind) (number : Nat) : Flow Entry :=
  match im.root kind number with
  | .ok root => im.entriesBelow mostLevels root
  | .error e => .fail e

end Image

end Motif.Database
