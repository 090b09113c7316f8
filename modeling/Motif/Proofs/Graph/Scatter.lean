import Motif.Proofs.Rows

/-!
# Counting and scattering endpoints

Offsets that come from counting the endpoints leave each vertex exactly the slots it needs. Its cursor
hands them out from left to right, whoever asks first, and a slot may be filled long after it was handed
out. The invariant ties the cursor of a vertex to the claims made there so far: each has a slot of its
own in the row of its vertex. So a row ends up with what was claimed there, in the order in which its
slots were handed out, and claims made one after the other put every row in its place.
-/

set_option autoImplicit false

namespace Motif.Graph

/-- What the endpoints at a vertex have at their other ends, in order. -/
def incident (ends : List Endpoint) (v : Nat) : List Nat :=
  (ends.filter (·.vertex = v)).map (·.other)

theorem incident_cons (e : Endpoint) (ends : List Endpoint) (v : Nat) :
    incident (e :: ends) v = (if e.vertex = v then [e.other] else []) ++ incident ends v := by
  simp only [incident, List.filter_cons, decide_eq_true_eq]
  split <;> rfl

theorem incident_append (xs ys : List Endpoint) (v : Nat) :
    incident (xs ++ ys) v = incident xs v ++ incident ys v := by
  simp [incident]

theorem mem_incident {ends : List Endpoint} {v w : Nat} :
    w ∈ incident ends v ↔ ⟨v, w⟩ ∈ ends := by
  simp only [incident, List.mem_map, List.mem_filter, decide_eq_true_iff]
  constructor
  · rintro ⟨⟨_, _⟩, ⟨he, rfl⟩, rfl⟩
    exact he
  · exact fun he => ⟨⟨v, w⟩, ⟨he, rfl⟩, rfl⟩

/-- The rows that the endpoints make. -/
def incidentRows (vertexCount : Nat) (ends : List Endpoint) : List (List Nat) :=
  (List.range vertexCount).map (incident ends)

@[simp] theorem length_incidentRows (vertexCount : Nat) (ends : List Endpoint) :
    (incidentRows vertexCount ends).length = vertexCount := by
  simp [incidentRows]

@[simp] theorem getElem_incidentRows {vertexCount : Nat} {ends : List Endpoint} {v : Nat}
    (h : v < (incidentRows vertexCount ends).length) :
    (incidentRows vertexCount ends)[v] = incident ends v := by
  simp [incidentRows]

theorem length_incident (ends : List Endpoint) (v : Nat) :
    (incident ends v).length = (ends.map (·.vertex)).count v := by
  rw [incident, List.length_map, List.count, List.countP_map, List.countP_eq_length_filter]
  congr 1

theorem countEndpoints_eq {vertexCount : Nat} {ends : List Endpoint}
    (valid : ∀ e ∈ ends, e.vertex < vertexCount) :
    countEndpoints vertexCount ends =
      .ok ((incidentRows vertexCount ends).map List.length).toArray := by
  have inside : ∀ v ∈ ends.map (·.vertex), v < (Array.replicate vertexCount 0).size := by
    intro v hv
    obtain ⟨e, he, rfl⟩ := List.mem_map.mp hv
    simpa using valid e he
  obtain ⟨counts, run, size, counted⟩ := increments_spec (Array.replicate vertexCount 0) inside
  rw [List.foldlM_map] at run
  rw [countEndpoints, run, Except.ok.injEq]
  apply Array.ext
  · simpa using size
  · intro v hv _
    have entry := counted v
    rw [Array.getElem?_eq_getElem hv] at entry
    simpa [length_incident, Array.getElem?_replicate, show v < vertexCount by simpa [size] using hv]
      using entry

section Order

variable {order ends : List Endpoint} (same : order.Perm ends)
include same

theorem incident_perm (v : Nat) : (incident order v).Perm (incident ends v) :=
  (same.filter _).map _

theorem map_length_incidentRows_perm (vertexCount : Nat) :
    (incidentRows vertexCount order).map List.length =
      (incidentRows vertexCount ends).map List.length := by
  simp only [incidentRows, List.map_map]
  exact List.map_congr_left fun v _ => (incident_perm same v).length_eq

end Order

/-- Where the row of a vertex starts, if these are all endpoints that there will be. -/
def rowStart (vertexCount : Nat) (ends : List Endpoint) (v : Nat) : Nat :=
  (((incidentRows vertexCount ends).map List.length).take v).sum

section Rows

variable {vertexCount v w : Nat} {ends : List Endpoint}

theorem rowStart_succ (ends : List Endpoint) (hv : v < vertexCount) :
    rowStart vertexCount ends (v + 1) = rowStart vertexCount ends v + (incident ends v).length := by
  rw [rowStart, sum_take_succ _ (by simpa using hv), rowStart, List.getElem_map, getElem_incidentRows]

theorem rowStart_mono (vertexCount : Nat) (ends : List Endpoint) (h : v ≤ w) :
    rowStart vertexCount ends v ≤ rowStart vertexCount ends w :=
  sum_take_mono _ h

theorem rowStart_end (vertexCount : Nat) (ends : List Endpoint) :
    rowStart vertexCount ends vertexCount =
      ((incidentRows vertexCount ends).map List.length).sum := by
  rw [rowStart, List.take_of_length_le (by simp)]

theorem rowStart_perm {order : List Endpoint} (same : order.Perm ends) :
    rowStart vertexCount order v = rowStart vertexCount ends v := by
  rw [rowStart, map_length_incidentRows_perm same, rowStart]

theorem getElem?_sums_incidentRows (hv : v ≤ vertexCount) :
    (sums ((incidentRows vertexCount ends).map List.length)).toArray[v]? =
      some (rowStart vertexCount ends v) := by
  rw [List.getElem?_toArray, List.getElem?_eq_getElem (by simp; omega), getElem_sums, rowStart]

end Rows

namespace Slots

/-- The next free slot of a vertex, which from now on is free no more. -/
def take (s : Slots) (v : Nat) : Except Error (Nat × Slots) := do
  let slot ← read s.cursors v
  let cursors ← write s.cursors v (slot + 1)
  return (slot, ⟨cursors, s.slots⟩)

def fill (s : Slots) (slot other : Nat) : Except Error Slots := do
  let slots ← write s.slots slot other
  return ⟨s.cursors, slots⟩

theorem take_eq {s : Slots} {v slot : Nat} (cursor : s.cursors[v]? = some slot)
    (inside : v < s.cursors.size) :
    s.take v = .ok (slot, ⟨s.cursors.set v (slot + 1) inside, s.slots⟩) := by
  rw [take, read_eq_ok.mpr cursor, ok_bind, write_of_lt _ inside]
  rfl

theorem fill_eq {s : Slots} {slot : Nat} (other : Nat) (inside : slot < s.slots.size) :
    s.fill slot other = .ok ⟨s.cursors, s.slots.set slot other inside⟩ := by
  rw [fill, write_of_lt _ inside]
  rfl

/-- A claim is both, with nothing in between. -/
theorem claim_eq_take_fill (s : Slots) (e : Endpoint) :
    s.claim e = (do
      let (slot, t) ← s.take e.vertex
      t.fill slot e.other) := by
  by_cases inside : e.vertex < s.cursors.size
  · rw [take_eq (Array.getElem?_eq_getElem inside) inside, claim, read_of_lt inside, ok_bind, ok_bind]
    simp only [fill]
    cases write s.slots s.cursors[e.vertex] e.other with
    | error cause => rfl
    | ok slots =>
      rw [ok_bind, ok_bind, write_of_lt _ inside]
      rfl
  · simp only [claim, take, read, Array.getElem?_eq_none (Nat.le_of_not_lt inside), error_bind]

theorem empty_sums (counts : List Nat) :
    Slots.empty (sums counts).toArray =
      .ok ⟨(sums counts).toArray.pop, Array.replicate counts.sum 0⟩ := by
  have inside : counts.length < (sums counts).length := by simp
  have last : read (sums counts).toArray ((sums counts).toArray.size - 1) = .ok counts.sum := by
    rw [List.size_toArray, length_sums, Nat.add_sub_cancel, read_eq_ok, List.getElem?_toArray,
      List.getElem?_eq_getElem inside, getElem_sums, List.take_length]
  rw [empty, last]
  rfl

end Slots

/-- An endpoint and the slot that was handed out for it. -/
structure Claim where
  slot : Nat
  endpoint : Endpoint

/-- The claims at a vertex. -/
def claimsAt (claims : List Claim) (v : Nat) : List Claim := claims.filter (·.endpoint.vertex = v)

section Claims

variable {claims : List Claim} {c : Claim} {v : Nat}

theorem mem_claimsAt : c ∈ claimsAt claims v ↔ c ∈ claims ∧ c.endpoint.vertex = v := by
  simp [claimsAt]

theorem map_claimsAt (claims : List Claim) (v : Nat) :
    (claimsAt claims v).map (·.endpoint.other) = incident (claims.map (·.endpoint)) v := by
  simp [claimsAt, incident, List.filter_map, Function.comp_def]

theorem length_claimsAt (claims : List Claim) (v : Nat) :
    (claimsAt claims v).length = (incident (claims.map (·.endpoint)) v).length := by
  rw [← map_claimsAt, List.length_map]

theorem claimsAt_snoc_self (claims : List Claim) (c : Claim) :
    claimsAt (claims ++ [c]) c.endpoint.vertex = claimsAt claims c.endpoint.vertex ++ [c] := by
  simp [claimsAt, List.filter_append]

theorem claimsAt_snoc_of_ne (claims : List Claim) (h : c.endpoint.vertex ≠ v) :
    claimsAt (claims ++ [c]) v = claimsAt claims v := by
  simp [claimsAt, List.filter_append, h]

end Claims

/-- A scatter under way. Some endpoints are still waiting for a slot. The claims stand in the order in
which they got theirs; those that are pending have not filled it yet. -/
structure Scattering where
  slots : Slots
  waiting : List Endpoint
  claims : List Claim
  pending : List Claim

namespace Scattering

def start (s : Slots) (ends : List Endpoint) : Scattering := ⟨s, ends, [], []⟩

/-- Any endpoint that waits may be next to get its slot, and any pending claim next to fill its own. -/
inductive Step : Scattering → Scattering → Prop
  | take {s t : Slots} (before : List Endpoint) {after : List Endpoint} {e : Endpoint}
      {claims pending : List Claim} {slot : Nat} :
      s.take e.vertex = .ok (slot, t) →
      Step ⟨s, before ++ e :: after, claims, pending⟩
        ⟨t, before ++ after, claims ++ [⟨slot, e⟩], ⟨slot, e⟩ :: pending⟩
  | fill {s t : Slots} {waiting : List Endpoint} {claims : List Claim} (before : List Claim)
      {after : List Claim} {c : Claim} :
      s.fill c.slot c.endpoint.other = .ok t →
      Step ⟨s, waiting, claims, before ++ c :: after⟩ ⟨t, waiting, claims, before ++ after⟩

/-- The endpoints that have got their slots, in this order. -/
def order (q : Scattering) : List Endpoint := q.claims.map (·.endpoint)

def Complete (q : Scattering) : Prop := q.waiting = [] ∧ q.pending = []

variable {vertexCount : Nat} {ends : List Endpoint}

/-- What every step keeps. A row has been handed out up to its cursor, each slot to one claim, and the
claims that are not pending have filled their slots. -/
structure Keeps (vertexCount : Nat) (ends : List Endpoint) (q : Scattering) : Prop where
  shared : (q.order ++ q.waiting).Perm ends
  cursorCount : q.slots.cursors.size = vertexCount
  slotCount : q.slots.slots.size = rowStart vertexCount ends vertexCount
  cursor : ∀ v < vertexCount, q.slots.cursors[v]? =
    some (rowStart vertexCount ends v + (claimsAt q.claims v).length)
  placed : ∀ v < vertexCount, (claimsAt q.claims v).map (·.slot) =
    List.range' (rowStart vertexCount ends v) (claimsAt q.claims v).length
  apart : (q.claims.map (·.slot)).Nodup
  held : ∀ c ∈ q.pending, c ∈ q.claims
  filled : ∀ c ∈ q.claims, c ∈ q.pending ∨ q.slots.slots[c.slot]? = some c.endpoint.other

namespace Keeps

variable {q : Scattering}

theorem mem_ends (h : q.Keeps vertexCount ends) {c : Claim} (hc : c ∈ q.claims) :
    c.endpoint ∈ ends :=
  h.shared.subset (List.mem_append_left _ (List.mem_map_of_mem hc))

/-- At each vertex, those that have a slot and those that wait make up all endpoints. -/
theorem length_add_length (h : q.Keeps vertexCount ends) (v : Nat) :
    (claimsAt q.claims v).length + (incident q.waiting v).length = (incident ends v).length := by
  rw [← (incident_perm h.shared v).length_eq, incident_append, List.length_append, length_claimsAt,
    order]

variable (h : q.Keeps vertexCount ends) (valid : ∀ e ∈ ends, e.vertex < vertexCount)
include h valid

theorem slot_handed_out {c : Claim} (hc : c ∈ q.claims) :
    rowStart vertexCount ends c.endpoint.vertex ≤ c.slot ∧
      c.slot < rowStart vertexCount ends c.endpoint.vertex +
        (claimsAt q.claims c.endpoint.vertex).length := by
  have slot : c.slot ∈ (claimsAt q.claims c.endpoint.vertex).map (·.slot) :=
    List.mem_map_of_mem (mem_claimsAt.mpr ⟨hc, rfl⟩)
  rwa [h.placed _ (valid _ (h.mem_ends hc)), List.mem_range'_1] at slot

theorem slot_in_row {c : Claim} (hc : c ∈ q.claims) :
    rowStart vertexCount ends c.endpoint.vertex ≤ c.slot ∧
      c.slot < rowStart vertexCount ends (c.endpoint.vertex + 1) := by
  have handed := h.slot_handed_out valid hc
  have places := h.length_add_length c.endpoint.vertex
  rw [rowStart_succ ends (valid _ (h.mem_ends hc))]
  omega

theorem slot_lt {c : Claim} (hc : c ∈ q.claims) : c.slot < q.slots.slots.size := by
  rw [h.slotCount]
  exact Nat.lt_of_lt_of_le (h.slot_in_row valid hc).2
    (rowStart_mono _ _ (valid _ (h.mem_ends hc)))

/-- The slot under the cursor of a vertex belongs to no claim, neither there nor at another vertex. -/
theorem cursor_fresh {v : Nat} (hv : v < vertexCount)
    (room : (claimsAt q.claims v).length < (incident ends v).length) :
    rowStart vertexCount ends v + (claimsAt q.claims v).length ∉ q.claims.map (·.slot) := by
  intro given
  obtain ⟨c, hc, same⟩ := List.mem_map.mp given
  have handed := h.slot_handed_out valid hc
  have row := h.slot_in_row valid hc
  have next := rowStart_succ ends hv
  rcases Nat.lt_trichotomy c.endpoint.vertex v with before | here | behind
  · have := rowStart_mono vertexCount ends (show c.endpoint.vertex + 1 ≤ v from before)
    omega
  · rw [here] at handed
    omega
  · have := rowStart_mono vertexCount ends (show v + 1 ≤ c.endpoint.vertex from behind)
    omega

end Keeps

section Steps

variable (valid : ∀ e ∈ ends, e.vertex < vertexCount) {s : Slots} {waiting : List Endpoint}
  {claims pending : List Claim}
include valid

/-- An endpoint that waits finds a slot of its row. -/
theorem Keeps.take (before : List Endpoint) {after : List Endpoint} {e : Endpoint}
    (h : Keeps vertexCount ends ⟨s, before ++ e :: after, claims, pending⟩) :
    ∃ slot t, s.take e.vertex = .ok (slot, t) ∧ Keeps vertexCount ends
      ⟨t, before ++ after, claims ++ [⟨slot, e⟩], ⟨slot, e⟩ :: pending⟩ := by
  have shared : (claims.map (·.endpoint) ++ (before ++ e :: after)).Perm ends := h.shared
  have hv : e.vertex < vertexCount := valid e (shared.subset (by simp))
  have room : (claimsAt claims e.vertex).length < (incident ends e.vertex).length := by
    have places : (claimsAt claims e.vertex).length +
        (incident (before ++ e :: after) e.vertex).length = (incident ends e.vertex).length :=
      h.length_add_length e.vertex
    have waits : 0 < (incident (before ++ e :: after) e.vertex).length :=
      List.length_pos_of_mem (mem_incident (w := e.other).mpr (by simp))
    omega
  have fresh := h.cursor_fresh valid hv room
  have inside : e.vertex < s.cursors.size := by
    rw [h.cursorCount]
    exact hv
  refine ⟨_, _, Slots.take_eq (h.cursor _ hv) inside, ?_, ?_, h.slotCount, ?_, ?_, ?_, ?_, ?_⟩
  · have moved : (e :: (before ++ after)).Perm (before ++ e :: after) := List.perm_middle.symm
    rw [order, List.map_append, List.append_assoc]
    exact (moved.append_left _).trans shared
  · simpa using h.cursorCount
  · intro v hv
    rw [Array.getElem?_set inside]
    by_cases here : e.vertex = v
    · subst here
      rw [if_pos rfl, claimsAt_snoc_self _ ⟨_, e⟩, List.length_append, List.length_singleton,
        Nat.add_assoc]
    · rw [if_neg here, claimsAt_snoc_of_ne _ here]
      exact h.cursor v hv
  · intro v hv
    by_cases here : e.vertex = v
    · subst here
      rw [claimsAt_snoc_self _ ⟨_, e⟩, List.map_append, h.placed _ hv, List.length_append,
        List.length_singleton, List.range'_concat, Nat.one_mul, List.map_singleton]
    · rw [claimsAt_snoc_of_ne _ here]
      exact h.placed v hv
  · rw [List.map_append]
    exact h.apart.append (List.nodup_singleton _) (List.disjoint_singleton.mpr fresh)
  · intro c hc
    rcases List.mem_cons.mp hc with rfl | hc
    · exact List.mem_append_right _ List.mem_cons_self
    · exact List.mem_append_left _ (h.held c hc)
  · intro c hc
    rcases List.mem_append.mp hc with hc | hc
    · exact (h.filled c hc).imp_left (List.mem_cons_of_mem _)
    · exact .inl (List.mem_singleton.mp hc ▸ List.mem_cons_self)

/-- A pending claim fills its slot, and no other claim's. -/
theorem Keeps.fill (before : List Claim) {after : List Claim} {c : Claim}
    (h : Keeps vertexCount ends ⟨s, waiting, claims, before ++ c :: after⟩) :
    ∃ t, s.fill c.slot c.endpoint.other = .ok t ∧
      Keeps vertexCount ends ⟨t, waiting, claims, before ++ after⟩ := by
  have hc : c ∈ claims := h.held c (by simp)
  have inside : c.slot < s.slots.size := h.slot_lt valid hc
  refine ⟨_, Slots.fill_eq _ inside, h.shared, h.cursorCount, by simpa using h.slotCount, h.cursor,
    h.placed, h.apart, ?_, ?_⟩
  · intro d hd
    exact h.held d (by simp only [List.mem_append, List.mem_cons] at hd ⊢; tauto)
  · intro d hd
    rw [Array.getElem?_set inside]
    by_cases same : c.slot = d.slot
    · obtain rfl : c = d := List.inj_on_of_nodup_map h.apart hc hd same
      exact .inr (if_pos rfl)
    · rw [if_neg same]
      refine (h.filled d hd).imp_left fun waits => ?_
      have other : d ≠ c := fun h => same (h ▸ rfl)
      simp only [List.mem_append, List.mem_cons] at waits ⊢
      tauto

theorem Keeps.step {q q' : Scattering} (h : q.Keeps vertexCount ends) (step : Step q q') :
    q'.Keeps vertexCount ends := by
  cases step with
  | take before taken =>
    obtain ⟨_, _, taken', keeps⟩ := h.take valid before
    rw [taken, Except.ok.injEq, Prod.mk.injEq] at taken'
    obtain ⟨rfl, rfl⟩ := taken'
    exact keeps
  | fill before filled =>
    obtain ⟨_, filled', keeps⟩ := h.fill valid before
    rw [filled, Except.ok.injEq] at filled'
    exact filled' ▸ keeps

theorem Keeps.run {q q' : Scattering} (h : q.Keeps vertexCount ends)
    (run : Relation.ReflTransGen Step q q') : q'.Keeps vertexCount ends := by
  induction run with
  | refl => exact h
  | tail _ step ih => exact ih.step valid step

/-- Every run can be completed. -/
theorem Keeps.exists_complete {q : Scattering} (h : q.Keeps vertexCount ends) :
    ∃ q', Relation.ReflTransGen Step q q' ∧ q'.Complete := by
  -- an endpoint that waits takes two steps, and a pending claim one
  induction left : 2 * q.waiting.length + q.pending.length using Nat.strong_induction_on
    generalizing q with
  | _ left ih =>
    obtain ⟨s, waiting, claims, pending⟩ := q
    cases pending with
    | cons c pending =>
      obtain ⟨t, filled, keeps⟩ := h.fill valid []
      obtain ⟨q', run, complete⟩ := ih _ (by subst left; simp) keeps rfl
      exact ⟨q', .head (.fill [] filled) run, complete⟩
    | nil =>
      cases waiting with
      | cons e waiting =>
        obtain ⟨slot, t, taken, keeps⟩ := h.take valid []
        obtain ⟨q', run, complete⟩ := ih _ (by subst left; simp; omega) keeps rfl
        exact ⟨q', .head (.take [] taken) run, complete⟩
      | nil => exact ⟨_, .refl, rfl, rfl⟩

/-- Claims made one after the other, in any order, are a run as well. -/
theorem Keeps.run_claims {order : List Endpoint} (same : order.Perm waiting)
    (h : Keeps vertexCount ends ⟨s, waiting, claims, []⟩) :
    ∃ t more, order.foldlM Slots.claim s = .ok t ∧ more.map (·.endpoint) = order ∧
      Relation.ReflTransGen Step ⟨s, waiting, claims, []⟩ ⟨t, [], claims ++ more, []⟩ := by
  induction order generalizing s waiting claims with
  | nil =>
    rw [List.nil_perm.mp same]
    refine ⟨s, [], rfl, rfl, ?_⟩
    rw [List.append_nil]
  | cons e order ih =>
    obtain ⟨before, after, rfl⟩ := List.append_of_mem (same.subset List.mem_cons_self)
    obtain ⟨slot, t, taken, keeps⟩ := h.take valid before
    obtain ⟨u, filled, keeps⟩ := keeps.fill valid []
    obtain ⟨w, more, claimed, ordered, run⟩ :=
      ih ((List.perm_cons e).mp (same.trans List.perm_middle)) keeps
    refine ⟨w, ⟨slot, e⟩ :: more, ?_, by rw [List.map_cons, ordered], ?_⟩
    · rw [List.foldlM_cons, Slots.claim_eq_take_fill, taken, ok_bind]
      simp only [filled, ok_bind, claimed]
    · rw [List.append_assoc] at run
      exact .head (.take before taken) (.head (.fill [] filled) run)

end Steps

theorem exists_start (vertexCount : Nat) (ends : List Endpoint) :
    ∃ s, Slots.empty (sums ((incidentRows vertexCount ends).map List.length)).toArray = .ok s ∧
      (start s ends).Keeps vertexCount ends := by
  refine ⟨_, Slots.empty_sums _, .refl _, by simp [start], ?_, fun v hv => ?_, fun v _ => rfl,
    List.nodup_nil, fun c hc => absurd hc List.not_mem_nil, fun c hc => absurd hc List.not_mem_nil⟩
  · exact (Array.size_replicate).trans (rowStart_end _ _).symm
  · have inside : v < (sums ((incidentRows vertexCount ends).map List.length)).dropLast.length := by
      simpa using hv
    change (sums _).toArray.pop[v]? = _
    rw [List.pop_toArray, List.getElem?_toArray, List.getElem?_eq_getElem inside,
      List.getElem_dropLast, getElem_sums]
    rfl

section Complete

variable {q : Scattering} (h : q.Keeps vertexCount ends) (complete : q.Complete)
include h complete

theorem Keeps.order_perm : q.order.Perm ends := by
  have shared := h.shared
  rwa [complete.1, List.append_nil] at shared

theorem Keeps.written {c : Claim} (hc : c ∈ q.claims) :
    q.slots.slots[c.slot]? = some c.endpoint.other := by
  refine (h.filled c hc).resolve_left fun waits => ?_
  rw [complete.2] at waits
  exact List.not_mem_nil waits

/-- A row holds what was claimed there, in the order in which its slots were handed out. -/
theorem Keeps.slots_eq :
    q.slots.slots = (incidentRows vertexCount q.order).flatten.toArray := by
  have same := h.order_perm complete
  apply Array.toList_inj.mp
  refine eq_flatten _ ?_ fun v hv k hk => ?_
  · rw [map_length_incidentRows_perm same, ← rowStart_end, Array.length_toList, h.slotCount]
  · have hv : v < vertexCount := by simpa using hv
    have hk : k < (claimsAt q.claims v).length := by
      simpa [length_claimsAt, order] using hk
    have slot : (claimsAt q.claims v)[k].slot = rowStart vertexCount q.order v + k := by
      have entry := List.getElem_of_eq (h.placed v hv) (i := k) (by simpa using hk)
      rw [List.getElem_map, List.getElem_range', Nat.one_mul] at entry
      rw [entry, rowStart_perm same]
    have written := h.written complete (mem_claimsAt.mp (List.getElem_mem hk)).1
    rw [slot] at written
    simp only [getElem_incidentRows, order, ← map_claimsAt, List.getElem_map,
      Array.getElem?_toList]
    exact written

end Complete

end Scattering

/-- The scatter puts every row in its place. -/
theorem scatter_eq {vertexCount : Nat} {ends : List Endpoint}
    (valid : ∀ e ∈ ends, e.vertex < vertexCount) :
    scatter (sums ((incidentRows vertexCount ends).map List.length)).toArray ends =
      .ok (incidentRows vertexCount ends).flatten.toArray := by
  obtain ⟨s, emptied, keeps⟩ := Scattering.exists_start vertexCount ends
  obtain ⟨t, claims, claimed, ordered, run⟩ := keeps.run_claims valid (.refl _)
  have slots : t.slots = (incidentRows vertexCount (claims.map (·.endpoint))).flatten.toArray :=
    (keeps.run valid run).slots_eq ⟨rfl, rfl⟩
  rw [scatter, emptied, ok_bind, claimed, ok_bind, slots, ordered]
  rfl

end Motif.Graph
