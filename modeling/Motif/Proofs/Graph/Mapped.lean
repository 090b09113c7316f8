import Motif.Proofs.Graph.Edges
import Motif.Proofs.Graph.Renumber

/-!
# Maps of graphs

A map that keeps vertices apart and adjacent. Renumbering gives one in both directions: old ids of
new ones, and new ids of old ones. Between graphs with equally many edges such a map takes the edges
to all edges, so it adds none.
-/

set_option autoImplicit false

namespace Motif.Graph

/-- A map that keeps the vertices of `h` apart and adjacent in `g`. -/
structure MapsInto (f : Nat → Nat) (h g : Graph) : Prop where
  inside : ∀ a < h.vertexCount, f a < g.vertexCount
  injective : ∀ a < h.vertexCount, ∀ b < h.vertexCount, f a = f b → a = b
  adj : ∀ a b, h.Adj a b → g.Adj (f a) (f b)

/-- The pairs of adjacent vertices; every edge gives two. -/
def arcs (g : Graph) : Finset (Nat × Nat) :=
  (Finset.range g.vertexCount ×ˢ Finset.range g.vertexCount).filter fun p => g.Adj p.1 p.2

namespace WellFormed

variable {g : Graph} (wf : g.WellFormed)
include wf

theorem mem_arcs {p : Nat × Nat} : p ∈ g.arcs ↔ g.Adj p.1 p.2 := by
  rw [arcs, Finset.mem_filter, Finset.mem_product, Finset.mem_range, Finset.mem_range]
  constructor
  · exact fun h => h.2
  · exact fun adj => ⟨⟨wf.lt_of_adj adj, wf.lt_of_adj' adj⟩, adj⟩

theorem card_arcs : g.arcs.card = 2 * g.edgeCount := by
  rw [← wf.halves, wf.length, wf.degrees_eq]
  exact card_listed g.vertexCount g.neighborList (fun u _ => (wf.ascending' u).nodup)
    fun u _ v hv => wf.lt_of_adj' hv

end WellFormed

/-- Where two graphs have equally many edges, what is adjacent behind the map was adjacent
before. -/
theorem MapsInto.adj_of_adj {f : Nat → Nat} {h g : Graph} (maps : MapsInto f h g)
    (source : h.WellFormed) (target : g.WellFormed) (edges : h.edgeCount = g.edgeCount) {a b : Nat}
    (ha : a < h.vertexCount) (hb : b < h.vertexCount) (joined : g.Adj (f a) (f b)) : h.Adj a b := by
  have into : Set.MapsTo (Prod.map f f) h.arcs g.arcs := by
    intro p hp
    exact target.mem_arcs.mpr (maps.adj p.1 p.2 (source.mem_arcs.mp hp))
  have apart : Set.InjOn (Prod.map f f) h.arcs := by
    intro p hp q hq same
    have hp := source.mem_arcs.mp hp
    have hq := source.mem_arcs.mp hq
    obtain ⟨first, second⟩ := Prod.mk.inj same
    exact Prod.ext (maps.injective _ (source.lt_of_adj hp) _ (source.lt_of_adj hq) first)
      (maps.injective _ (source.lt_of_adj' hp) _ (source.lt_of_adj' hq) second)
  have onto := Finset.surjOn_of_injOn_of_card_le (Prod.map f f) into apart
    (by rw [source.card_arcs, target.card_arcs, edges])
  obtain ⟨⟨a', b'⟩, hp, same⟩ := onto ((target.mem_arcs (p := (f a, f b))).mpr joined)
  have adj := source.mem_arcs.mp hp
  obtain ⟨first, second⟩ := Prod.mk.inj same
  rw [← maps.injective _ (source.lt_of_adj adj) _ ha first,
    ← maps.injective _ (source.lt_of_adj' adj) _ hb second]
  exact adj

namespace Renumbers

variable {g : Graph} {r : Renumbered} (renumbers : g.Renumbers r)
include renumbers

theorem mapsInto_old : MapsInto (fun a => r.oldIds[a]?.getD 0) r.graph g := by
  have count := renumbers.vertexCount
  have size := renumbers.size_oldIds
  constructor
  · intro a ha
    have ha : a < r.oldIds.size := by omega
    rw [Array.getElem?_eq_getElem ha, Option.getD_some, ← renumbers.mem_oldIds]
    exact Array.getElem_mem_toList ha
  · intro a ha b hb same
    have ha : a < r.oldIds.size := by omega
    have hb : b < r.oldIds.size := by omega
    simp only [Array.getElem?_eq_getElem ha, Array.getElem?_eq_getElem hb,
      Option.getD_some] at same
    exact (renumbers.nodup.getElem_inj_iff).mp same
  · intro a b hab
    obtain ⟨v, w, hv, hw, hvw⟩ := (renumbers.adj a b).mp hab
    simpa [hv, hw] using hvw

/-- The old id at the new id of a vertex is the vertex. -/
theorem getElem?_idxOf {v : Nat} (hv : v < g.vertexCount) :
    r.oldIds[r.oldIds.toList.idxOf v]? = some v := by
  rw [← Array.getElem?_toList]
  exact List.getElem?_idxOf (renumbers.mem_oldIds.mpr hv)

theorem mapsInto_new (wf : g.WellFormed) : MapsInto r.oldIds.toList.idxOf g r.graph := by
  constructor
  · intro v hv
    rw [renumbers.vertexCount, ← renumbers.size_oldIds]
    exact List.idxOf_lt_length_of_mem (renumbers.mem_oldIds.mpr hv)
  · intro v hv w _ same
    exact (List.idxOf_inj (renumbers.mem_oldIds.mpr hv)).mp same
  · intro v w hvw
    apply (renumbers.adj _ _).mpr
    exact ⟨v, w, renumbers.getElem?_idxOf (wf.lt_of_adj hvw),
      renumbers.getElem?_idxOf (wf.lt_of_adj' hvw), hvw⟩

end Renumbers

end Motif.Graph
