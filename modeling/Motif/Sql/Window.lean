import Motif.Sql.Expression
import Motif.Sql.Flaw
import Motif.Sql.Token

/-!
Windows that have names, and windows that are based on them.
-/

set_option autoImplicit false

namespace Motif.Sql

section

variable {ε δ : Type} {m : Type → Type} [Monad m]

def Edge.mapM (f : ε → m δ) : Edge ε → m (Edge δ)
  | .unbounded => return .unbounded
  | .current => return .current
  | .before e => return .before (← f e)
  | .after e => return .after (← f e)

def Frame.mapM (first last : ε → m δ) (frame : Frame ε) : m (Frame δ) := do
  return ⟨frame.spacing, ← frame.first.mapM first, ← frame.last.mapM last, frame.exclusion⟩

end

def Edge.hasDistance {ε : Type} : Edge ε → Bool
  | .before _ | .after _ => true
  | .unbounded | .current => false

namespace Window

variable {ε : Type}

def find? (windows : List (String × Window ε)) (name : String) : Option (Window ε) :=
  (windows.reverse.find? fun w => Token.lower w.1 == Token.lower name).map Prod.snd

/-- Puts a window together with the one that it is based on, which must not say the same things. -/
def chain (windows : List (String × Window ε)) (w : Window ε) : Except Flaw (Window ε) :=
  match w.base with
  | none => .ok w
  | some name =>
    match find? windows name with
    | none => .error (.noSuchWindow name)
    | some base =>
      if !w.parts.isEmpty then .error (.windowOverride "PARTITION clause" name)
      else if !base.order.isEmpty ∧ !w.order.isEmpty then
        .error (.windowOverride "ORDER BY clause" name)
      else if base.frame.isSome then .error (.windowOverride "frame specification" name)
      else .ok ⟨none, base.parts, if base.order.isEmpty then w.order else base.order, w.frame⟩

def chainAll (windows : List (String × Window ε)) : Except Flaw (List (String × Window ε)) :=
  windows.foldlM (fun found (name, w) => do return found ++ [(name, ← chain found w)]) []

def plainFrame : Frame ε := ⟨.range, .unbounded, .current, .none⟩

end Window

end Motif.Sql
