import Motif.Sql.Value

/-!
Rows in order and without repetition: ways of putting cells in order, and what is done by them.
-/

set_option autoImplicit false

namespace Motif.Database

open Sql

/-- A way of putting cells in order. -/
structure Direction where
  collation : Collation
  descending : Bool
  nullsFirst : Option Bool
deriving DecidableEq

namespace Direction

def compare (d : Direction) (a b : Cell) : Ordering :=
  let plain := d.collation.compare a b
  let turned := if d.descending then plain.swap else plain
  match d.nullsFirst with
  | none => turned
  | some first =>
    if a.isNull = b.isNull then turned
    else if a.isNull = first then .lt else .gt

def compareAll : List Direction → List Cell → List Cell → Ordering
  | d :: ds, a :: as, b :: bs =>
    match d.compare a b with
    | .eq => compareAll ds as bs
    | other => other
  | _, _, _ => .eq

def plain (c : Collation) : Direction := ⟨c, false, none⟩

variable {α : Type}

def sort (ds : List Direction) (items : List (List Cell × α)) : List (List Cell × α) :=
  items.mergeSort fun a b => compareAll ds a.1 b.1 != .gt

def distinct (ds : List Direction) (items : List (List Cell × α)) : List (List Cell × α) :=
  items.foldl (fun kept a =>
    if kept.any fun k => compareAll ds k.1 a.1 == .eq then kept else kept ++ [a]) []

def latest (ds : List Direction) (items : List (List Cell × α)) : List (List Cell × α) :=
  (distinct ds items.reverse).reverse

def groups (ds : List Direction) : List (List Cell × α) → List (List α)
  | [] => []
  | a :: rest =>
    match rest, groups ds rest with
    | b :: _, g :: others =>
      if compareAll ds a.1 b.1 == .eq then (a.2 :: g) :: others else [a.2] :: g :: others
    | _, others => [a.2] :: others

end Direction

end Motif.Database
