import Motif.Sql.Json

/-!
Trees with a value put in, taken out, or changed as another tree says.
-/

set_option autoImplicit false

namespace Motif.Sql.Json

def place? (j : Json) (step : Step) : Option Nat :=
  match j, step with
  | .object labels items, .member label =>
    (labels.idxOf? label).bind fun place => if place < items.length then some place else none
  | .array items, step =>
    (step.place? items.length).bind fun place => if place < items.length then some place else none
  | _, _ => none

def items : Json → List Json
  | .atom _ => []
  | .array items | .object _ items => items

def withItem (j : Json) (place : Nat) (item : Json) : Json :=
  match j with
  | .atom a => .atom a
  | .array items => .array (items.set place item)
  | .object labels items => .object labels (items.set place item)

def withoutItem (j : Json) (place : Nat) : Json :=
  match j with
  | .atom a => .atom a
  | .array items => .array (items.eraseIdx place)
  | .object labels items => .object (labels.eraseIdx place) (items.eraseIdx place)

def withNew (j : Json) (step : Step) (item : Json) : Json :=
  match j, step with
  | .object labels items, .member label => .object (labels ++ [escape label]) (items ++ [item])
  | .array items, step =>
    if step.place? items.length = some items.length then .array (items ++ [item]) else .array items
  | j, _ => j

/-- Nothing but what is on a path, if there can be something new on it. -/
def onPath (value : Json) : Nat → List Nat → Except (List Nat) (Option Json)
  | _, [] => .ok (some value)
  | 0, _ => .ok none
  | n + 1, path =>
    let isFirst := [91, 48, 93].isPrefixOf path
    if path.headD 0 ≠ 46 ∧ !isFirst then .ok none
    else
      match Step.read? path with
      | none => .error (wrongStep path)
      | some (step, rest) => do
        let empty : Json := if isFirst then .array [] else .object [] []
        return (← onPath value n rest).map (empty.withNew step)

/-- Puts a value on a path: where nothing is, or where something is, or both. -/
def put (adds replaces : Bool) (value : Json) : Nat → Json → List Nat → Except (List Nat) Json
  | _, j, [] => .ok (if replaces then value else j)
  | 0, j, _ => .ok j
  | n + 1, j, path =>
    if !j.opens path then .ok j
    else
      match Step.read? path with
      | none => .error (wrongStep path)
      | some (step, rest) =>
        match (j.place? step).bind fun place => (j.items[place]?).map fun item => (place, item) with
        | some (place, item) => (put adds replaces value n item rest).map (j.withItem place)
        | none => do
          if !adds then return j
          match ← onPath value n rest with
          | some item => return j.withNew step item
          | none => return j

/-- Takes out what is on a path; nothing is left if that is the value itself. -/
def take : Nat → Json → List Nat → Except (List Nat) (Option Json)
  | _, _, [] => .ok none
  | 0, j, _ => .ok (some j)
  | n + 1, j, path =>
    if !j.opens path then .ok (some j)
    else
      match Step.read? path with
      | none => .error (wrongStep path)
      | some (step, rest) =>
        match (j.place? step).bind fun place => (j.items[place]?).map fun item => (place, item) with
        | none => .ok (some j)
        | some (place, item) => do
          match ← take n item rest with
          | some item => return some (j.withItem place item)
          | none => return some (j.withoutItem place)

def steps? (path : List Nat) : Except (List Nat) (List Nat) :=
  match path.takeWhile (· ≠ 0) with
  | 36 :: steps => .ok steps
  | other => .error other

def isNull : Json → Bool
  | .atom .null => true
  | _ => false

mutual

def withoutNulls : Json → Json
  | .atom a => .atom a
  | .array items => .array items
  | .object labels items =>
    let kept := (labels.zip (allWithoutNulls items)).filter fun member => !member.2.isNull
    .object (kept.map Prod.fst) (kept.map Prod.snd)

def allWithoutNulls : List Json → List Json
  | [] => []
  | item :: rest => withoutNulls item :: allWithoutNulls rest

end

mutual

/-- Changes a value as another one says: its members take the place of those with their labels, and
those are left out that it has null for. -/
def merged (j : Json) : Json → Json
  | .object labels items =>
    match j with
    | .object ownLabels ownItems =>
      let (labels, items) := mergedMembers ownLabels ownItems labels items
      .object labels items
    | _ => withoutNulls (.object labels items)
  | other => other

def mergedMembers (ownLabels : List (List Nat)) (ownItems : List Json)
    (labels : List (List Nat)) : List Json → List (List Nat) × List Json
  | [] => (ownLabels, ownItems)
  | item :: rest =>
    let label := labels.headD []
    let (ownLabels, ownItems) :=
      match ownLabels.idxOf? label with
      | some place =>
        if item.isNull then (ownLabels.eraseIdx place, ownItems.eraseIdx place)
        else (ownLabels, ownItems.set place (merged (ownItems[place]?.getD (.atom .null)) item))
      | none =>
        if item.isNull then (ownLabels, ownItems)
        else (ownLabels ++ [label], ownItems ++ [withoutNulls item])
    mergedMembers ownLabels ownItems labels.tail rest

end

end Motif.Sql.Json
