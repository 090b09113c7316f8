import Motif.Sql.Flaw
import Motif.Sql.Pattern
import Motif.Sql.Value

/-!
What functions of values are, and plain kinds of them.
-/

set_option autoImplicit false

namespace Motif.Sql

open Database (Cell)

/-- A value that a function is given. A text may stand for a tree of values. -/
structure Argument where
  cell : Cell
  isTree : Bool

/-- Where a function is called: how values are compared there, and whether what is called must have
the same value at any time. -/
structure Setting where
  collation : Collation
  isTimeless : Bool

/-- A function: how many arguments it takes, and what it makes of them. -/
structure Function where
  takes : Nat → Bool
  apply : Setting → List Argument → Except Flaw Cell
  /-- It compares its arguments. -/
  compares : Bool
  /-- Its value hangs on more than its arguments. -/
  changes : Bool
  /-- It must not be called by what a database says. -/
  isUnsafe : Bool
  /-- Whether a value that it gives stands for a tree of values. -/
  givesTree : Cell → Bool

namespace Function

def bytesOf (text : String) : List Nat := text.toUTF8.toList.map UInt8.toNat

def plain (takes : Nat → Bool) (f : List Cell → Except Flaw Cell) : Function :=
  ⟨takes, fun _ arguments => f (arguments.map Argument.cell), false, false, false,
    fun _ => false⟩

def strict (takes : Nat → Bool) (f : List Cell → Except Flaw Cell) : Function :=
  plain takes fun arguments => if arguments.any Cell.isNull then .ok .null else f arguments

def ofOne (f : Cell → Except Flaw Cell) : Function :=
  strict (· = 1) fun arguments => f (arguments.headD .null)

def comparing (takes : Nat → Bool) (f : Collation → List Cell → Cell) : Function :=
  ⟨takes, fun s arguments => .ok (f s.collation (arguments.map Argument.cell)), true, false, false,
    fun _ => false⟩

def unusable (name : String) (takes : Nat → Bool) : Function :=
  { plain takes fun _ => .error (.contextUse name) with changes := true }

end Function

end Motif.Sql
