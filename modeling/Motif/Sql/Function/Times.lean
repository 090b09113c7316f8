import Motif.Sql.Function.Changing
import Motif.Sql.Instant.Text

/-!
The functions of points in time.
-/

set_option autoImplicit false

namespace Motif.Sql.Function

open Database (Cell)

def present : Option Int :=
  match Instant.ofText none (bytesOf now) with
  | .ok t => t.counted.bind Instant.count?
  | .error _ => none

/-- A function of the instant that some arguments tell. It is null if they tell none. -/
def ofInstant (name : String) (takes : Nat → Bool) (isPlaced : Bool)
    (f : List Nat → Int → Date → TimeOfDay → Option Cell) : Function :=
  let apply (s : Setting) (arguments : List Argument) : Except Flaw Cell :=
    let cells := arguments.map Argument.cell
    let pattern : Cell := if isPlaced then cells.headD .null else .ofText ""
    let told := if isPlaced then cells.drop 1 else cells
    let now? := if s.isTimeless then none else present
    if pattern.isNull then .ok .null
    else
      match Instant.ofCells now? told with
      | .error .clock => .error (.timeUse name)
      | .error .unreadable => .ok .null
      | .ok t =>
        match t.count?, t.date?, t.time? with
        | some count, some d, some time =>
          .ok ((f (pattern.bytes.takeWhile (· ≠ 0)) count d time).getD .null)
        | _, _, _ => .ok .null
  ⟨takes, apply, false, false, false, fun _ => false⟩

def ofTimes? (name : String) : Option Function :=
  let all (_ : Nat) : Bool := true
  match name with
  | "julianday" => some (ofInstant name all false fun _ count _ _ =>
      some (.ofFloat (Float.ofInt count / 86400000.0)))
  | "date" => some (ofInstant name all false fun _ _ d _ => some (.text (Instant.dateText d)))
  | "time" => some (ofInstant name all false fun _ _ _ t => some (.text (Instant.timeText t)))
  | "datetime" => some (ofInstant name all false fun _ _ d t =>
      some (.text (Instant.dateText d ++ [32] ++ Instant.timeText t)))
  | "strftime" => some (ofInstant name all true fun pattern count d t =>
      (Instant.patternText? count d t pattern).map Cell.text)
  | _ => none

end Motif.Sql.Function
