import Motif.Sql.Json

/-!
The values of a tree one after the other, each in front of those in it. They are numbered, and so are
the labels in front of them.
-/

set_option autoImplicit false

namespace Motif.Sql.Json

open Database (Cell)

/-- A value in a tree: the value around it, and how it is found there. -/
structure Node where
  number : Nat
  parent : Option Nat
  /-- The label of a value in an object, or the place of one in an array. -/
  key : Cell
  isLabelled : Bool
  value : Json
  path : List Nat
  step : List Nat

mutual

def size : Json → Nat
  | .atom _ => 1
  | .array items => 1 + sizes 0 items
  | .object _ items => 1 + sizes 1 items

def sizes (front : Nat) : List Json → Nat
  | [] => 0
  | item :: rest => front + size item + sizes front rest

end

def placeStep (place : Nat) : List Nat := bytesOf s!"[{place}]"

def labelStep (label : List Nat) : List Nat := 46 :: label

mutual

def nodes (node : Node) : Json → List Node
  | .atom a => [{ node with value := .atom a }]
  | .array items =>
    { node with value := .array items } ::
      itemNodes node.number (node.path ++ node.step) 0 (node.number + 1) items
  | .object labels items =>
    { node with value := .object labels items } ::
      memberNodes node.number (node.path ++ node.step) labels (node.number + 2) items

def itemNodes (parent : Nat) (path : List Nat) (place number : Nat) : List Json → List Node
  | [] => []
  | item :: rest =>
    nodes ⟨number, some parent, .integer place, false, item, path, placeStep place⟩ item ++
      itemNodes parent path (place + 1) (number + size item) rest

def memberNodes (parent : Nat) (path : List Nat) (labels : List (List Nat)) (number : Nat) :
    List Json → List Node
  | [] => []
  | item :: rest =>
    let label := labels.headD []
    nodes ⟨number, some parent, .text (unescape label), true, item, path, labelStep label⟩ item ++
      memberNodes parent path labels.tail (number + size item + 1) rest

end

def allNodes (j : Json) : List Node := nodes ⟨0, none, .null, false, j, [], [36]⟩ j

def distance? (j : Json) (step : Step) : Option Nat :=
  match j, step with
  | .object labels items, .member label =>
    (labels.idxOf? label).map fun place => 2 + sizes 1 (items.take place)
  | .array items, step =>
    (step.place? items.length).map fun place => 1 + sizes 0 (items.take place)
  | _, _ => none

def numberAt? (j : Json) : Nat → List Nat → Option Nat
  | _, [] => some 0
  | 0, _ => none
  | n + 1, path => do
    let (step, rest) ← Step.read? path
    let distance ← j.distance? step
    let item ← j.child? step
    return distance + (← item.numberAt? n rest)

/-- The nodes that a walk from a value on comes by: the value and all in it, or just those that are
directly in it. A value that has none in it is there by itself. -/
def walk (j : Json) (isDeep : Bool) (start : Nat) : List Node :=
  let all := j.allNodes
  match all.find? fun node => node.number = start with
  | none => []
  | some root =>
    let bare := { root with parent := none, key := if root.isLabelled then root.key else .null }
    let inside := all.filter fun node =>
      start < node.number && node.number < start + size root.value
    match root.value, isDeep with
    | .atom _, false => [{ bare with key := .null }]
    | _, true => bare :: inside
    | _, false => (inside.filter fun node => node.parent = some start).map fun node =>
        { node with parent := none }

end Motif.Sql.Json
