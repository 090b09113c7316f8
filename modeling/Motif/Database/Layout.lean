import Motif.Database.Image
import Motif.Database.Tables
import Motif.Database.Varint
import Motif.Text.Utf8

/-!
Tables as the bytes of a file. The first page holds the header of the file and the schema, and
each table has a page of its own behind it. On a page the cells stand at the end, the latest
first, and their positions behind the header.
-/

set_option autoImplicit false

namespace Motif.Database.Layout

def bigEndian : Nat → Nat → List Nat
  | 0, _ => []
  | size + 1, n => bigEndian size (n / 256) ++ [n % 256]

def integerKinds : List (Nat × Nat × Int) :=
  [(1, 1, 0x80), (2, 2, 0x8000), (3, 3, 0x800000), (4, 4, 0x80000000),
    (5, 6, 0x800000000000)]

def integerField (value : Int) : Nat × List Nat :=
  if value = 0 then (8, [])
  else if value = 1 then (9, [])
  else
    let bits := (value % Int.ofNat sizeLimit).toNat
    match integerKinds.find? fun k => -k.2.2 ≤ value ∧ value < k.2.2 with
    | some (kind, size, _) => (kind, bigEndian size bits)
    | none => (6, bigEndian 8 bits)

def field : Cell → Nat × List Nat
  | .null => (0, [])
  | .integer value => integerField value
  | .real bits => (7, bigEndian 8 bits)
  | .text bytes => (2 * bytes.length + 13, bytes)
  | .blob bytes => (2 * bytes.length + 12, bytes)

def headerSize (kinds : Nat) : Nat :=
  let once := kinds + (Varint.encode kinds).length
  kinds + (Varint.encode once).length

def record (cells : List Cell) : List Nat :=
  let fields := cells.map field
  let kinds := fields.flatMap fun f => Varint.encode f.1
  Varint.encode (headerSize kinds.length) ++ kinds ++ fields.flatMap Prod.snd

def smallestCell : Nat := 4

def row (number : Nat) (cells : List Cell) : List Nat :=
  let content := record cells
  let bytes := Varint.encode content.length ++ Varint.encode number ++ content
  bytes ++ List.replicate (smallestCell - bytes.length) 0

def pageSize : Nat := Image.plainPageSize

def positions (taken : Nat) : List (List Nat) → List Nat
  | [] => []
  | cell :: rest => (pageSize - taken - cell.length) :: positions (taken + cell.length) rest

def fill (bytes : List Nat) (size : Nat) : List Nat :=
  bytes ++ List.replicate (size - bytes.length) 0

def innerPage (front : List Nat) : List Nat :=
  fill (front ++ [5, 0, 0, 0, 1] ++ bigEndian 2 (pageSize - 5)) pageSize

def leafPage (front : List Nat) (rows : List (List Nat)) : List Nat :=
  let content := rows.reverse.flatten
  let header := front ++ [13, 0, 0] ++ bigEndian 2 rows.length ++
    bigEndian 2 (pageSize - content.length) ++ [0] ++
    (positions 0 rows).flatMap (bigEndian 2)
  if pageSize < header.length + content.length then innerPage front
  else fill header (pageSize - content.length) ++ content

def numbered (rows : List (List Cell)) : List (List Nat) :=
  rows.zipIdx.map fun r => row (r.2 + 1) r.1

def quoted (name : String) : String :=
  "\"" ++ String.ofList (name.toList.flatMap fun c => if c = '"' then ['"', '"'] else [c]) ++ "\""

def statement (t : Table) : String :=
  let columns := ", ".intercalate (t.columns.map quoted)
  s!"CREATE TABLE {quoted t.name} ({columns})"

def textCell (text : String) : Cell := .text (Text.Utf8.encode text)

def schemaRow (t : Table) (root : Nat) : List Cell :=
  [textCell "table", textCell t.name, textCell t.name, .integer root, textCell (statement t)]

def writer : Nat := 3035004

def header (tables : List Table) : List Nat :=
  let changes := tables.foldl (fun n t => n + 1 + t.rows.length) 0
  Image.magic ++ bigEndian 2 pageSize ++ [1, 1, 0] ++ Image.payloadShares ++
    [changes, tables.length + 1, 0, 0, tables.length, Image.latestFormat, 0, 0, 1, 0, 0,
      0, 0, 0, 0, 0, 0, changes, writer].flatMap (bigEndian 4)

def bytes (tables : List Table) : List Nat :=
  if tables.isEmpty then []
  else
    let schema := tables.zipIdx.map fun t => schemaRow t.1 (t.2 + 2)
    leafPage (header tables) (numbered schema) ++
      tables.flatMap fun t => leafPage [] (numbered t.rows)

end Motif.Database.Layout
