import Motif.Proofs.Graph.Build

/-!
# The scatter in any order

Endpoints may get their slots in any order, and fill them in any other. A row then holds the other ends
of its edges in some order, which tidying undoes, so the graph of the rows is always the one that is
built. Nothing that may be done on the way can fail.
-/

set_option autoImplicit false

namespace Motif.Graph

theorem tidyLists_incidentRows_perm {order ends : List Endpoint} (same : order.Perm ends)
    (vertexCount : Nat) :
    tidyLists (incidentRows vertexCount order) = tidyLists (incidentRows vertexCount ends) := by
  apply List.ext_getElem (by simp)
  intro v hv hv'
  have inside : v < vertexCount := by simpa using hv
  rw [getElem_tidyLists (by simpa using inside), getElem_tidyLists (by simpa using inside),
    getElem_incidentRows, getElem_incidentRows, tidyList_perm v (incident_perm same v)]

/-- What the edges at a vertex have at their other ends. A loop has the vertex itself there, twice. -/
def otherEnds (edges : List Edge) (v : Int) : List Int :=
  edges.flatMap fun e => (if e.1 = v then [e.2] else []) ++ if e.2 = v then [e.1] else []

theorem map_incident_endpoints {edges : List Edge} (valid : ValidIds edges) (v : Nat) :
    (incident (endpoints edges) v).map Int.ofNat = otherEnds edges v := by
  induction edges with
  | nil => rfl
  | cons e edges ih =>
    obtain ⟨⟨source, -⟩, target, -⟩ := valid e List.mem_cons_self
    have rest := ih fun e he => valid e (List.mem_cons_of_mem _ he)
    have atSource : e.1.toNat = v ↔ e.1 = v := by omega
    have atTarget : e.2.toNat = v ↔ e.2 = v := by omega
    have both : endpoints (e :: edges) =
        ⟨e.1.toNat, e.2.toNat⟩ :: ⟨e.2.toNat, e.1.toNat⟩ :: endpoints edges := rfl
    rw [both, incident_cons, incident_cons, otherEnds, List.flatMap_cons, ← otherEnds, ← rest]
    simp only [atSource, atTarget, List.map_append, List.append_assoc,
      apply_ite (List.map Int.ofNat), List.map_cons, List.map_nil, Int.ofNat_eq_natCast,
      Int.toNat_of_nonneg source, Int.toNat_of_nonneg target]

namespace Scattering

/-- What holds of a scatter at any time. Each claim has a slot in the row of its own vertex, no two have
the same one, and nothing that may be done next can fail. -/
structure Orderly (offsets : Array Nat) (q : Scattering) : Prop where
  inside : ∀ c ∈ q.claims, ∃ start stop, offsets[c.endpoint.vertex]? = some start ∧
    offsets[c.endpoint.vertex + 1]? = some stop ∧ start ≤ c.slot ∧ c.slot < stop
  apart : (q.claims.map (·.slot)).Nodup
  takes : ∀ e ∈ q.waiting, ∃ taken, q.slots.take e.vertex = .ok taken
  fills : ∀ c ∈ q.pending, ∃ filled, q.slots.fill c.slot c.endpoint.other = .ok filled

/-- What a complete scatter leaves behind. Its claims have filled all slots. The row of a vertex holds what
the edges there have at their other ends, and the slots are those of claims made one after the other. -/
structure Scatters (edges : List Edge) (vertexCount : Nat) (offsets : Array Nat) (q : Scattering) :
    Prop where
  claimed : q.order.Perm (endpoints edges)
  sequential : scatter offsets q.order = .ok q.slots.slots
  size : q.slots.slots.size = 2 * edges.length
  covered : (q.claims.map (·.slot)).Perm (List.range (2 * edges.length))
  written : ∀ c ∈ q.claims, q.slots.slots[c.slot]? = some c.endpoint.other
  rows : ∀ v < vertexCount, ∃ start stop row, offsets[v]? = some start ∧
    offsets[v + 1]? = some stop ∧ slice q.slots.slots start stop = .ok row ∧
    (row.toList.map Int.ofNat).Perm (otherEnds edges v)

namespace Keeps

section Complete

variable {vertexCount : Nat} {ends : List Endpoint} {q : Scattering}
  (h : q.Keeps vertexCount ends) (complete : q.Complete)
  (valid : ∀ e ∈ ends, e.vertex < vertexCount)
include h complete

theorem slice_slots {v : Nat} (hv : v < vertexCount) :
    slice q.slots.slots (rowStart vertexCount ends v) (rowStart vertexCount ends (v + 1)) =
      .ok (incident q.order v).toArray := by
  have same := h.order_perm complete
  have inside : v < (incidentRows vertexCount q.order).length := by simpa using hv
  have whole := slice_flatten (incidentRows vertexCount q.order) inside (Nat.le_refl _)
  rw [← h.slots_eq complete, List.take_length, getElem_incidentRows] at whole
  rw [rowStart_succ ends hv, ← rowStart_perm same, ← (incident_perm same v).length_eq]
  exact whole

include valid

theorem scatter_order :
    scatter (sums ((incidentRows vertexCount ends).map List.length)).toArray q.order =
      .ok q.slots.slots := by
  have same := h.order_perm complete
  rw [← map_length_incidentRows_perm same, scatter_eq fun e he => valid e (same.subset he),
    h.slots_eq complete]

/-- There are as many claims as slots, so no slot is left out. -/
theorem slots_perm : (q.claims.map (·.slot)).Perm (List.range q.slots.slots.size) := by
  have inside : q.claims.map (·.slot) ⊆ List.range q.slots.slots.size := by
    intro slot hslot
    obtain ⟨c, hc, rfl⟩ := List.mem_map.mp hslot
    exact List.mem_range.mpr (h.slot_lt valid hc)
  have claimed : q.claims.length = ends.length := by
    rw [← (h.order_perm complete).length_eq, order, List.length_map]
  refine (h.apart.subperm inside).perm_of_length_le ?_
  rw [List.length_range, List.length_map, h.slotCount, rowStart_end, sum_incidentRows valid, claimed]

end Complete

section Edges

variable {edges : List Edge} {vertexCount : Nat} {q : Scattering}
  (h : q.Keeps vertexCount (endpoints edges))
  (valid : ∀ e ∈ endpoints edges, e.vertex < vertexCount)
include h valid

theorem orderly :
    q.Orderly (sums ((incidentRows vertexCount (endpoints edges)).map List.length)).toArray := by
  obtain ⟨s, waiting, claims, pending⟩ := q
  refine ⟨fun c hc => ?_, h.apart, fun e he => ?_, fun c hc => ?_⟩
  · have hv := valid _ (h.mem_ends hc)
    exact ⟨_, _, getElem?_sums_incidentRows (Nat.le_of_lt hv), getElem?_sums_incidentRows hv,
      h.slot_in_row valid hc⟩
  · obtain ⟨before, after, rfl⟩ := List.append_of_mem he
    obtain ⟨slot, t, taken, -⟩ := h.take valid before
    exact ⟨_, taken⟩
  · obtain ⟨before, after, rfl⟩ := List.append_of_mem hc
    obtain ⟨t, filled, -⟩ := h.fill valid before
    exact ⟨t, filled⟩

theorem scatters (ids : ValidIds edges) (complete : q.Complete) :
    q.Scatters edges vertexCount
      (sums ((incidentRows vertexCount (endpoints edges)).map List.length)).toArray := by
  have size : q.slots.slots.size = 2 * edges.length := by
    rw [h.slotCount, rowStart_end, sum_incidentRows valid, endpoints_length]
  refine ⟨h.order_perm complete, h.scatter_order complete valid, size,
    size ▸ h.slots_perm complete valid, fun c hc => h.written complete hc, fun v hv => ?_⟩
  refine ⟨_, _, _, getElem?_sums_incidentRows (Nat.le_of_lt hv), getElem?_sums_incidentRows hv,
    h.slice_slots complete hv, ?_⟩
  rw [← map_incident_endpoints ids]
  exact (incident_perm (h.order_perm complete) v).map _

end Edges

end Keeps

end Scattering

/-- On good ids a scatter is orderly all the time, in whatever order the endpoints get their slots and fill
them, and every run can be completed. What is left in the end are rearranged rows, and the graph of these
is the one that is built. Any order of the endpoints is that of a run. -/
theorem scatter_any_order {edges : List Edge} (valid : ValidIds edges) {minimum : Nat}
    (few : (minimum : Int) ≤ largestId) (room : 2 * edges.length < sizeLimit) :
    ∃ bound offsets s g, vertexBound edges = .ok bound ∧
      (do prefixSums (← countEndpoints (max bound minimum) (endpoints edges)).toList) =
        .ok offsets ∧
      Slots.empty offsets = .ok s ∧ build edges minimum = .ok g ∧
      (∀ q, Relation.ReflTransGen Scattering.Step (.start s (endpoints edges)) q →
        q.Orderly offsets ∧
        (∃ q', Relation.ReflTransGen Scattering.Step q q' ∧ q'.Complete) ∧
        (q.Complete → q.Scatters edges (max bound minimum) offsets ∧
          ofRows q.slots.slots offsets = .ok g)) ∧
      ∀ order, order.Perm (endpoints edges) →
        ∃ q, Relation.ReflTransGen Scattering.Step (.start s (endpoints edges)) q ∧
          q.Complete ∧ q.order = order := by
  obtain ⟨edgeCount, halves, built⟩ := exists_build valid minimum
  have small : max (idBound edges) minimum + 1 < sizeLimit := by
    have := idBound_le valid
    have : largestId.toNat + 1 < sizeLimit := by decide
    omega
  rw [if_pos ⟨small, room⟩] at built
  have inside : ∀ e ∈ endpoints edges, e.vertex < max (idBound edges) minimum := fun e he =>
    Nat.lt_of_lt_of_le (vertex_lt_of_mem_endpoints he) (Nat.le_max_left _ _)
  have total : ((incidentRows (max (idBound edges) minimum) (endpoints edges)).map
      List.length).sum < sizeLimit := by
    rw [sum_incidentRows inside, endpoints_length]
    exact room
  obtain ⟨s, emptied, keeps⟩ :=
    Scattering.exists_start (max (idBound edges) minimum) (endpoints edges)
  refine ⟨idBound edges, _, s, _, vertexBound_eq_ok_iff.mpr ⟨valid, rfl⟩, ?_, emptied, built,
    fun q run => ?_, fun order same => ?_⟩
  · rw [countEndpoints_eq inside, ok_bind]
    exact prefixSums_eq_ok_iff.mpr ⟨by simpa using small, total, rfl⟩
  · have keeps := keeps.run inside run
    refine ⟨keeps.orderly inside, keeps.exists_complete inside, fun complete => ?_⟩
    refine ⟨keeps.scatters inside valid complete, ?_⟩
    have same := keeps.order_perm complete
    have lengths := map_length_incidentRows_perm same (max (idBound edges) minimum)
    have lists : tidyLists (incidentRows (max (idBound edges) minimum) q.order) =
        builtLists (max (idBound edges) minimum) edges := tidyLists_incidentRows_perm same _
    have graph := ofRows_eq (incidentRows (max (idBound edges) minimum) q.order)
      (by simpa using small) (lengths.symm ▸ total) (lists.symm ▸ halves)
    rwa [lists, lengths, ← keeps.slots_eq complete] at graph
  · obtain ⟨t, claims, -, ordered, run⟩ := keeps.run_claims inside same
    exact ⟨_, run, ⟨rfl, rfl⟩, ordered⟩

/-- A loop, a repeated edge and two vertices without edges, with the last endpoint first. -/
theorem scatter_any_order_reversed :
    let edges : List Edge := [(1, 0), (0, 1), (1, 1), (3, 1)]
    ValidIds edges ∧ ∃ offsets s q g, Slots.empty offsets = .ok s ∧ build edges 6 = .ok g ∧
      Relation.ReflTransGen Scattering.Step (.start s (endpoints edges)) q ∧ q.Complete ∧
      q.order = (endpoints edges).reverse ∧ q.slots.slots = #[1, 1, 3, 1, 1, 0, 0, 1] ∧
      ofRows q.slots.slots offsets = .ok g := by
  intro edges
  have valid : ValidIds edges := by decide
  obtain ⟨bound, offsets, s, g, bounded, counted, emptied, built, runs, orders⟩ :=
    scatter_any_order valid (show ((6 : Nat) : Int) ≤ largestId by decide) (by decide)
  obtain ⟨q, run, complete, ordered⟩ := orders (endpoints edges).reverse (List.reverse_perm _)
  obtain ⟨scatters, graph⟩ := (runs q run).2.2 complete
  have limits : (do prefixSums (← countEndpoints 6 (endpoints edges)).toList) =
      .ok #[0, 2, 7, 7, 8, 8, 8] := by cbv
  have largest : vertexBound edges = .ok 4 := by cbv
  rw [largest, Except.ok.injEq] at bounded
  rw [← bounded, show max 4 6 = 6 from rfl, limits, Except.ok.injEq] at counted
  have slots := scatters.sequential
  rw [ordered, ← counted] at slots
  have filled : scatter #[0, 2, 7, 7, 8, 8, 8] (endpoints edges).reverse =
      .ok #[1, 1, 3, 1, 1, 0, 0, 1] := by cbv
  rw [filled, Except.ok.injEq] at slots
  exact ⟨valid, offsets, s, q, g, emptied, built, run, complete, ordered, slots.symm, graph⟩

end Motif.Graph
