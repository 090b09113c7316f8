import Motif.Proofs.Intersection.Shared
import Motif.Proofs.Triangles.Listing

/-!
# Two ways to count

Scanning and intersecting both count, for every edge from `u` down to `v`, the vertices that close
it to a triangle from below. A total is a count only while it is a number of 64 bits, and so are
the partial sums on the way, which are no larger.
-/

set_option autoImplicit false

namespace Motif.Triangles

open Sorted Intersection

theorem sum_eq (counts : List Nat) : sum counts = counts.sum :=
  List.sum_eq_foldl.symm

theorem total_eq_fit (counts : List Nat) : total counts = fit counts.sum :=
  congrArg fit (sum_eq counts)

/-- Numbers of which one is too large are too large in total, and both fail alike. -/
theorem total_mapM_fit {α : Type} (f : α → Nat) (xs : List α) :
    (do total (← xs.mapM fun x => fit (f x))) = fit (xs.map f).sum := by
  by_cases each : ∀ x ∈ xs, f x < sizeLimit
  · rw [mapM_eq_map fun x hx => fit_of_lt (each x hx), ok_bind, total_eq_fit]
  · push Not at each
    obtain ⟨x, hx, large⟩ := each
    have failed : (xs.mapM fun x => fit (f x)) = .error (.fault .overflow) := by
      induction xs with
      | nil => cases hx
      | cons y ys ih =>
        rw [List.mapM_cons]
        by_cases fits : f y < sizeLimit
        · rw [fit_of_lt fits, ok_bind, ih]
          · rfl
          · rcases List.mem_cons.mp hx with rfl | hx
            · omega
            · exact hx
        · rw [fit, if_neg fits]
          rfl
    have sum : f x ≤ (xs.map f).sum := List.le_sum_of_mem (List.mem_map_of_mem hx)
    rw [failed, error_bind, fit, if_neg (by omega)]

section Scan

variable {row : Array Nat}

/-- The cursor passes what is below. -/
theorem drop_advance (w p : Nat) :
    row.toList.drop (advance row w p) = (row.toList.drop p).dropWhile (· < w) := by
  fun_induction advance row w p with
  | case1 p h below ih =>
    rw [ih, List.drop_eq_getElem_cons (i := p) (by simpa using h),
      List.dropWhile_cons_of_pos (by simpa using below)]
  | case2 p h notBelow =>
    rw [List.drop_eq_getElem_cons (i := p) (by simpa using h),
      List.dropWhile_cons_of_neg (by simpa using notBelow)]
  | case3 p h => rw [List.drop_eq_nil_of_le (by simpa using h), List.dropWhile_nil]

/-- On an ascending list, what is not below `w` starts with `w` if the list holds it. -/
theorem head?_dropWhile_lt {xs : List Nat} (h : Ascending xs) (w : Nat) :
    (xs.dropWhile (· < w)).head? = some w ↔ w ∈ xs := by
  induction xs with
  | nil => simp
  | cons x xs ih =>
    obtain ⟨hx, hxs⟩ := List.pairwise_cons.mp h
    by_cases hlt : x < w
    · rw [List.dropWhile_cons_of_pos (by simpa using hlt), ih hxs, List.mem_cons]
      exact ⟨.inr, fun h => h.resolve_left (by omega)⟩
    · rw [List.dropWhile_cons_of_neg (by simpa using hlt), List.head?_cons, Option.some.injEq,
        List.mem_cons]
      refine ⟨fun h => .inl h.symm, fun h => ?_⟩
      rcases h with rfl | hmem
      · rfl
      · exact absurd (hx w hmem) hlt

theorem mem_dropWhile_lt {xs : List Nat} {w x : Nat} (hwx : w < x) :
    x ∈ xs.dropWhile (· < w) ↔ x ∈ xs := by
  refine ⟨fun h => (List.dropWhile_sublist _).mem h, fun h => ?_⟩
  rw [← List.takeWhile_append_dropWhile (p := (· < w)) (l := xs), List.mem_append] at h
  refine h.resolve_left fun front => ?_
  have := List.mem_takeWhile_imp front
  simp at this
  omega

/-- A cursor that only moves forward misses nothing, since what it looks for ascends too. -/
theorem scan_eq (hrow : Ascending row.toList) {ws : List Nat} (hws : Ascending ws) (p : Nat) :
    scan row p ws = ws.countP (· ∈ row.toList.drop p) := by
  induction ws generalizing p with
  | nil => rfl
  | cons w ws ih =>
    obtain ⟨hw, hws⟩ := List.pairwise_cons.mp hws
    have found : row[advance row w p]? = some w ↔ w ∈ row.toList.drop p := by
      rw [← Array.getElem?_toList, ← List.head?_drop, drop_advance,
        head?_dropWhile_lt (hrow.sublist (List.drop_sublist _ _))]
    have rest : ws.countP (· ∈ row.toList.drop (advance row w p)) =
        ws.countP (· ∈ row.toList.drop p) := by
      refine List.countP_congr fun x hx => ?_
      rw [decide_eq_true_iff, decide_eq_true_iff, drop_advance, mem_dropWhile_lt (hw x hx)]
    rw [scan, ih hws, rest, List.countP_cons, Nat.add_comm]
    simp only [found, decide_eq_true_eq]

end Scan

section Count

variable {g : Graph} (wf : g.WellFormed)
include wf

theorem length_closers (u v : Nat) :
    (closers g u v).length = equalPairs (g.neighborList u) (lowerList g v) := by
  rw [equalPairs_eq_countP _ (ascending_lowerList wf v).nodup, List.countP_eq_length_filter]
  rfl

theorem takeWhile_row (u : Nat) : (g.neighborList u).takeWhile (· < u) = lowerList g u :=
  takeWhile_eq_filter (front_of_ascending (wf.ascending' u) u)

theorem countByScanning_eq_fit : countByScanning g = fit (tripleList g).length := by
  have atVertex : ∀ u ∈ g.vertices, (do
      let row ← g.row u
      let found ← (row.toList.takeWhile (· < u)).mapM fun v => do
        let other ← g.row v
        return scan row 0 (other.toList.takeWhile (· < v))
      total found) = fit ((lowerList g u).map fun v => (closers g u v).length).sum := by
    intro u hu
    have hu := Graph.mem_vertices.mp hu
    have found : (lowerList g u).mapM (fun v => do
        let other ← g.row v
        return scan (g.neighborList u).toArray 0 (other.toList.takeWhile (· < v))) =
        .ok ((lowerList g u).map fun v => (closers g u v).length) := by
      refine mapM_eq_map fun v hv => ?_
      have hv := wf.lt_of_adj' (mem_lowerList.mp hv).2
      have scanned : scan (g.neighborList u).toArray 0 (lowerList g v) =
          (closers g u v).length := by
        rw [length_closers wf, equalPairs_comm, equalPairs_eq_countP _ (wf.ascending' u).nodup]
        exact scan_eq (wf.ascending' u) (ascending_lowerList wf v) 0
      rw [wf.row_eq hv, ok_bind, takeWhile_row wf, scanned]
      rfl
    rw [wf.row_eq hu, ok_bind, takeWhile_row wf, found]
    exact total_eq_fit _
  rw [length_tripleList, countByScanning, mapM_congr atVertex]
  exact total_mapM_fit _ _

theorem countByScanning_eq (fits : (tripleList g).length < sizeLimit) :
    countByScanning g = .ok (tripleList g).length := by
  rw [countByScanning_eq_fit wf, fit_of_lt fits]

/-- The pairs of arrays that are intersected. -/
def queryList (g : Graph) : List (Array Nat × Array Nat) :=
  g.vertices.flatMap fun u =>
    if (g.neighborList u).length < 2 then []
    else (lowerList g u).map fun v => ((g.neighborList u).toArray, (lowerList g v).toArray)

theorem queries_eq : queries g = .ok (queryList g) := by
  have atVertex : ∀ u ∈ g.vertices, (do
      if (← g.degree u) < 2 then return []
      else
        let row ← g.row u
        (row.toList.takeWhile (· < u)).mapM fun v => do return (row, ← g.lowerRow v)) =
      .ok (if (g.neighborList u).length < 2 then []
        else (lowerList g u).map fun v =>
          ((g.neighborList u).toArray, (lowerList g v).toArray)) := by
    intro u hu
    have hu := Graph.mem_vertices.mp hu
    have rows : (lowerList g u).mapM (fun v => do
        return ((g.neighborList u).toArray, ← g.lowerRow v)) =
        .ok ((lowerList g u).map fun v =>
          ((g.neighborList u).toArray, (lowerList g v).toArray)) := by
      refine mapM_eq_map fun v hv => ?_
      have hv := wf.lt_of_adj' (mem_lowerList.mp hv).2
      rw [wf.lowerRow_eq hv]
      rfl
    rw [wf.degree_eq hu, ok_bind]
    split
    · rfl
    · rw [wf.row_eq hu, ok_bind, takeWhile_row wf]
      exact rows
  rw [queries, mapM_eq_map atVertex, queryList, List.flatMap_def]
  rfl

omit wf in
/-- A vertex with less than two neighbors has none that closes a triangle. -/
theorem closers_eq_nil {u v : Nat} (few : (g.neighborList u).length < 2)
    (hv : v ∈ lowerList g u) : closers g u v = [] := by
  rw [closers, List.filter_eq_nil_iff]
  intro w hw closes
  have hwv := (mem_lowerList.mp (of_decide_eq_true closes)).1
  have both : [w, v] ⊆ g.neighborList u := by
    simp only [List.cons_subset, List.nil_subset, and_true]
    exact ⟨hw, (mem_lowerList.mp hv).2⟩
  have distinct : [w, v].Nodup := by
    simp only [List.nodup_cons, List.mem_singleton, List.not_mem_nil, not_false_eq_true,
      List.nodup_nil, and_true]
    omega
  have := (distinct.subperm both).length_le
  simp only [List.length_cons, List.length_nil] at this
  omega

end Count

/-- An intersector that counts the shared elements of ascending arrays of vertices. -/
def Counts (intersect : Intersector) : Prop :=
  ∀ u v : Array Nat, Ascending u.toList → Ascending v.toList →
    (∀ x ∈ u.toList, x < largestId.toNat) → (∀ x ∈ v.toList, x < largestId.toNat) →
    intersect u v = .ok (shared u v)

section Intersect

variable {g : Graph} (wf : g.WellFormed)
include wf

theorem lt_largestId {u x : Nat} (hx : x ∈ g.neighborList u) : x < largestId.toNat :=
  Nat.lt_of_lt_of_le (wf.lt_of_adj' hx) wf.vertexIds

/-- Every query asks for the vertices that close one edge. -/
theorem shared_query (u v : Nat) :
    shared (g.neighborList u).toArray (lowerList g v).toArray = (closers g u v).length := by
  rw [length_closers wf,
    equalPairs_eq_card (wf.ascending' u).nodup (ascending_lowerList wf v).nodup]
  rfl

theorem intersect_query {intersect : Intersector} (counts : Counts intersect)
    {q : Array Nat × Array Nat} (hq : q ∈ queryList g) :
    intersect q.1 q.2 = .ok (shared q.1 q.2) := by
  obtain ⟨u, -, hq⟩ := List.mem_flatMap.mp hq
  split at hq
  · cases hq
  · obtain ⟨v, -, rfl⟩ := List.mem_map.mp hq
    exact counts _ _ (wf.ascending' u) (ascending_lowerList wf v) (fun x hx => lt_largestId wf hx)
      (fun x hx => lt_largestId wf (mem_lowerList.mp hx).2)

/-- The vertices that are left out would add nothing. -/
theorem sum_queries :
    ((queryList g).map fun q => shared q.1 q.2).sum = (tripleList g).length := by
  rw [length_tripleList, queryList, List.map_flatMap, List.flatMap_def, List.sum_flatten,
    List.map_map]
  congr 1
  refine List.map_congr_left fun u _ => ?_
  rw [Function.comp_apply]
  split
  case isTrue few =>
    rw [List.map_nil, List.sum_nil, eq_comm, List.sum_eq_zero_iff]
    intro n hn
    obtain ⟨v, hv, rfl⟩ := List.mem_map.mp hn
    rw [closers_eq_nil few hv, List.length_nil]
  case isFalse =>
    rw [List.map_map]
    congr 1
    exact List.map_congr_left fun v _ => shared_query wf u v

theorem countByIntersecting_eq_fit {intersect : Intersector} (counts : Counts intersect) :
    countByIntersecting g intersect = fit (tripleList g).length := by
  rw [countByIntersecting, queries_eq wf, ok_bind,
    mapM_eq_map fun q hq => intersect_query wf counts hq, ok_bind, total_eq_fit, sum_queries wf]

theorem countByIntersecting_eq {intersect : Intersector} (counts : Counts intersect)
    (fits : (tripleList g).length < sizeLimit) :
    countByIntersecting g intersect = .ok (tripleList g).length := by
  rw [countByIntersecting_eq_fit wf counts, fit_of_lt fits]

end Intersect

end Motif.Triangles
