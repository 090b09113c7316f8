import Motif.Database.Image
import Motif.Sql.Value
import Motif.Text.Utf16
import Motif.Text.Utf8

/-!
Texts in cells, which are written as the header of the file says.
-/

set_option autoImplicit false

namespace Motif.Database.Image

def textOf (im : Image) (bytes : List Nat) : String :=
  match im.encoding with
  | .utf8 => Text.Utf8.text bytes
  | .utf16Little => Text.Utf16.text true bytes
  | .utf16Big => Text.Utf16.text false bytes

def decoded (im : Image) : Cell → Cell
  | .text bytes =>
    match im.encoding with
    | .utf8 => .text bytes
    | _ => .ofText (im.textOf bytes)
  | c => c

def cellText? (im : Image) (c : Cell) : Option String :=
  if c.isNull then none
  else
    let text := match c with
      | .blob bytes => im.textOf bytes
      | c => Text.Utf8.text (im.decoded c).bytes
    some (String.ofList (text.toList.takeWhile (· ≠ '\x00')))

end Motif.Database.Image
