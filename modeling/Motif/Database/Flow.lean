import Motif.Database.Error

/-!
Things that come one after the other, until all have come or something goes wrong. What has come
before that counts.
-/

set_option autoImplicit false

namespace Motif.Database

structure Flow (α : Type) where
  items : List α
  fault? : Option Error

namespace Flow

variable {α β σ : Type}

def ofList (items : List α) : Flow α := ⟨items, none⟩

def fail (e : Error) : Flow α := ⟨[], some e⟩

def ofExcept : Except Error (Flow α) → Flow α
  | .ok flow => flow
  | .error e => fail e

def append (first : Flow α) (others : Unit → Flow α) : Flow α :=
  if first.fault?.isSome then first
  else
    let others := others ()
    ⟨first.items ++ others.items, others.fault?⟩

def flatMap (f : α → Flow β) (flow : Flow α) : Flow β := go flow.items
where
  go : List α → Flow β
    | [] => ⟨[], flow.fault?⟩
    | a :: rest => (f a).append fun _ => go rest

def map (f : α → β) (flow : Flow α) : Flow β := ⟨flow.items.map f, flow.fault?⟩

def mapM (f : α → Except Error β) (flow : Flow α) : Flow β :=
  flow.flatMap fun a =>
    match f a with
    | .ok b => ofList [b]
    | .error e => fail e

def filterM (p : α → Except Error Bool) (flow : Flow α) : Flow α :=
  flow.flatMap fun a =>
    match p a with
    | .ok isIn => ofList (if isIn then [a] else [])
    | .error e => fail e

def take (count : Nat) (flow : Flow α) : Flow α :=
  if count ≤ flow.items.length then ofList (flow.items.take count) else flow

def drop (count : Nat) (flow : Flow α) : Flow α := ⟨flow.items.drop count, flow.fault?⟩

def all (flow : Flow α) : Except Error (List α) :=
  match flow.fault? with
  | some e => .error e
  | none => .ok flow.items

def whole (f : List α → Except Error (Flow β)) (flow : Flow α) : Flow β :=
  ofExcept (flow.all >>= f)

def foldM (f : σ → α → Except Error σ) (s : σ) (flow : Flow α) : Except Error σ := do
  let s ← flow.items.foldlM f s
  match flow.fault? with
  | some e => throw e
  | none => return s

end Flow

end Motif.Database
