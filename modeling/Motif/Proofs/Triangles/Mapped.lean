import Motif.Proofs.Graph.Mapped
import Motif.Proofs.Triangles.Listing

/-!
# Triangles under a map of graphs

A map that keeps vertices apart and adjacent maps triangles to triangles, those at a vertex to those
at its image, and no two to the same. Renumbering is such a map in both directions, so the number
of triangles stays what it was, overall and at every vertex.
-/

set_option autoImplicit false

namespace Motif.Triangles

def trianglesAt (g : Graph) (v : Nat) : Finset (Finset Nat) :=
  (triangles g).filter (v ∈ ·)

theorem mem_trianglesAt {g : Graph} {v : Nat} {s : Finset Nat} :
    s ∈ trianglesAt g v ↔ s ∈ triangles g ∧ v ∈ s := by
  rw [trianglesAt, Finset.mem_filter]

section Map

variable {f : Nat → Nat} {g h : Graph} (maps : Graph.MapsInto f h g)
include maps

theorem image_mem_triangles {s : Finset Nat} (hs : s ∈ triangles h) : s.image f ∈ triangles g := by
  obtain ⟨vertices, three, adjacent⟩ := mem_triangles.mp hs
  refine mem_triangles.mpr ⟨?_, ?_, ?_⟩
  · intro v hv
    obtain ⟨a, ha, rfl⟩ := Finset.mem_image.mp hv
    exact maps.inside a (vertices a ha)
  · rw [← three]
    apply Finset.card_image_of_injOn
    intro a ha b hb same
    exact maps.injective a (vertices a ha) b (vertices b hb) same
  · intro v hv w hw hne
    obtain ⟨a, ha, rfl⟩ := Finset.mem_image.mp hv
    obtain ⟨b, hb, rfl⟩ := Finset.mem_image.mp hw
    exact maps.adj a b (adjacent a ha b hb fun h => hne (h ▸ rfl))

theorem image_injOn_triangles : Set.InjOn (Finset.image f) (triangles h) := by
  have half {s t : Finset Nat} (hs : s ∈ triangles h) (ht : t ∈ triangles h)
      (same : s.image f = t.image f) : s ⊆ t := by
    intro a ha
    have hfa : f a ∈ t.image f := same ▸ Finset.mem_image_of_mem f ha
    obtain ⟨b, hb, hab⟩ := Finset.mem_image.mp hfa
    have := maps.injective b ((mem_triangles.mp ht).1 b hb) a ((mem_triangles.mp hs).1 a ha) hab
    exact this ▸ hb
  intro s hs t ht same
  exact Finset.Subset.antisymm (half hs ht same) (half ht hs same.symm)

theorem card_triangles_le : (triangles h).card ≤ (triangles g).card :=
  Finset.card_le_card_of_injOn _ (fun _ hs => image_mem_triangles maps hs)
    (image_injOn_triangles maps)

theorem card_trianglesAt_le (a : Nat) : (trianglesAt h a).card ≤ (trianglesAt g (f a)).card := by
  apply Finset.card_le_card_of_injOn (Finset.image f)
  · intro s hs
    obtain ⟨hs, ha⟩ := mem_trianglesAt.mp hs
    exact mem_trianglesAt.mpr ⟨image_mem_triangles maps hs, Finset.mem_image_of_mem f ha⟩
  · exact (image_injOn_triangles maps).mono fun s hs => (mem_trianglesAt.mp hs).1

end Map

section Renumbered

variable {g : Graph} (wf : g.WellFormed) {r : Graph.Renumbered} (renumbers : g.Renumbers r)
include wf renumbers

theorem card_triangles_renumbered : (triangles r.graph).card = (triangles g).card :=
  Nat.le_antisymm (card_triangles_le renumbers.mapsInto_old)
    (card_triangles_le (renumbers.mapsInto_new wf))

theorem card_trianglesAt_renumbered {a v : Nat} (ha : r.oldIds[a]? = some v) :
    (trianglesAt r.graph a).card = (trianglesAt g v).card := by
  have there := card_trianglesAt_le renumbers.mapsInto_old a
  have back := card_trianglesAt_le (renumbers.mapsInto_new wf) v
  obtain ⟨hlt, rfl⟩ := Array.getElem?_eq_some_iff.mp ha
  have position : r.oldIds.toList.idxOf r.oldIds[a] = a := renumbers.nodup.idxOf_getElem a hlt
  rw [position] at back
  rw [ha, Option.getD_some] at there
  exact Nat.le_antisymm there back

end Renumbered

end Motif.Triangles
