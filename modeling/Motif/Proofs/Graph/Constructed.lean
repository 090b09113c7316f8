import Motif.Proofs.Graph.Build
import Motif.Proofs.Graph.Renumber

/-!
# The graphs there are

A graph comes from an edge list, from adjacency lists, or from another graph by renumbering it.
All of them are well-formed.
-/

set_option autoImplicit false

namespace Motif.Graph

/-- The graphs that can be had from outside. -/
inductive Constructed : Graph → Prop
  | ofEdges {edges : List Edge} {g : Graph} : ofEdges edges = .ok g → Constructed g
  | ofAdjacency {lists : List (List Int)} {g : Graph} :
      ofAdjacency lists = .ok g → Constructed g
  | renumbered {g : Graph} {r : Renumbered} :
      Constructed g → g.renumberByDegree = .ok r → Constructed r.graph

theorem Constructed.wellFormed {g : Graph} (constructed : g.Constructed) : g.WellFormed := by
  induction constructed with
  | @ofEdges edges g made =>
    exact wellFormed_of_build (ofEdges_eq_ok_iff.mp made).2 (Nat.zero_le _)
  | @ofAdjacency lists g made =>
    unfold Graph.ofAdjacency at made
    split at made
    case isTrue => cases made
    case isFalse few => exact wellFormed_of_build made (by omega)
  | @renumbered g r _ made wf =>
    obtain ⟨r', made', renumbers⟩ := wf.renumberByDegree_spec
    rw [made, Except.ok.injEq] at made'
    exact made' ▸ renumbers.wellFormed

end Motif.Graph
