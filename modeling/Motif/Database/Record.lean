import Motif.Database.Cell
import Motif.Database.Image
import Motif.Database.Varint

/-!
Records: a row as bytes. A header gives the kind of each field and with it its size, and the
contents follow in order. A record that does not fit on its page goes on elsewhere.
-/

set_option autoImplicit false

namespace Motif.Database

/-- Bytes of which the first stand at `start`. If they are not all, the number of the page that
goes on follows them. -/
structure Payload where
  image : Image
  size : Nat
  start : Nat
  localSize : Nat
  room : Nat

namespace Payload

def byte (p : Payload) (i : Nat) : Nat := p.image.byte (p.start + i)

def available (p : Payload) : Nat := min p.localSize p.room

def firstBytes (p : Payload) (count : Nat) : Except Error (List Nat) :=
  if count ≤ p.available then .ok (p.image.slice p.start count)
  else if p.available < p.localSize ∨ p.size < count then .error .malformed
  else do
    let next := p.image.number (p.start + p.localSize) 4
    let behind ← p.image.overflow next (count - p.localSize)
    return p.image.slice p.start p.localSize ++ behind

end Payload

namespace Record

def fieldSize (kind : Nat) : Nat :=
  if kind ≤ 4 then kind
  else if kind = 5 then 6
  else if kind ≤ 7 then 8
  else if kind < 12 then 0
  else (kind - 12) / 2

def signed (bytes : List Nat) : Int :=
  bytes.foldl (fun (n : Int) b => 256 * n + Int.ofNat b) (if bytes.headD 0 < 128 then 0 else -1)

def unsigned (bytes : List Nat) : Nat := bytes.foldl (fun n b => 256 * n + b) 0

def isNaN (bits : Nat) : Bool := 0x7ff0000000000000 < bits % 0x8000000000000000

/-- The cell that a field of a kind holds. A real number that is none is null. -/
def cell (kind : Nat) (bytes : List Nat) : Cell :=
  if kind = 0 then .null
  else if kind ≤ 6 then .integer (signed bytes)
  else if kind = 7 then if isNaN (unsigned bytes) then .null else .real (unsigned bytes)
  else if kind = 8 then .integer 0
  else if kind = 9 then .integer 1
  else if kind < 12 then .null
  else if kind % 2 = 0 then .blob bytes
  else .text bytes

/-- A field that the header of a record names: its kind and the position of its content. -/
structure Field where
  kind : Nat
  position : Nat

def headerLimit : Nat := 98307

/-- Looks for the field `index` places on, from the kind at `position` of the header. Contents end
at `offset` so far. The header has to end with the kind that ends it, and the contents of all
fields have to fill the payload; fields that are not named are missing. -/
def findField (header : Array Nat) (headerSize size : Nat) (position offset : Nat) :
    Nat → Except Error (Option Field)
  | index =>
    let (kind, behind) := Varint.decode (Image.byteAt header) position
    let stop := offset + fieldSize kind
    let last := headerSize ≤ behind
    if h : last = false ∧ 0 < index then
      findField header headerSize size behind stop (index - 1)
    else if size < stop ∨ (last ∧ (headerSize < behind ∨ stop ≠ size)) then .error .malformed
    else .ok (if index = 0 then some ⟨kind, offset⟩ else none)
termination_by index => index

def cellAt? (p : Payload) (index : Nat) : Except Error (Option Cell) := do
  if p.room = 0 then .error .malformed
  let (headerSize, behind) := Varint.decode p.byte 0
  if headerSize = 0 then return none
  if p.available < headerSize ∧ (headerLimit < headerSize ∨ p.size < headerSize) then
    .error .malformed
  else
    let header ← p.firstBytes headerSize
    match ← findField header.toArray headerSize p.size behind headerSize index with
    | none => return none
    | some field =>
      if fieldSize field.kind = 0 then return some (cell field.kind [])
      let bytes ← p.firstBytes (field.position + fieldSize field.kind)
      return some (cell field.kind (bytes.drop field.position))

end Record

end Motif.Database
