import Motif.Matching.VisitOrder
import Motif.Proofs.Graph.WellFormed
import Motif.Proofs.Marks

/-!
# The visit order of a pattern

A walk marks the vertices it has visited and counts for each vertex its visited neighbors. It goes
on while a vertex is left, so it visits every vertex once, and each depth knows its vertex, the
degree, and how the vertex is joined to those before it.
-/

set_option autoImplicit false

namespace Motif.Matching.VisitOrder

/-- What a walk knows about the vertices it has visited. -/
structure Walk.Reached (g : Graph) (w : Walk) : Prop where
  marks : Marks g.vertexCount w.visited w.order.toList
  counters : w.links.size = g.vertexCount
  links : ∀ v < g.vertexCount, w.links[v]? = some (w.order.toList.countP fun u => g.Adj u v)

theorem best_mem {standings : List Standing} {s : Standing} (h : best standings = some s) :
    s ∈ standings := by
  cases standings with
  | nil => cases h
  | cons a as =>
    have picks (b c : Standing) :
        (if c.beats b then c else b) = b ∨ (if c.beats b then c else b) = c := by
      split
      · exact .inr rfl
      · exact .inl rfl
    rw [best, Option.some.injEq] at h
    exact h ▸ foldl_mem picks as a

theorem best_eq_none {standings : List Standing} (h : best standings = none) :
    standings = [] := by
  cases standings with
  | nil => rfl
  | cons a as => cases h

section Walk

variable {g : Graph} (wf : g.WellFormed) {w : Walk}

theorem Walk.reached_start : (Walk.start g).Reached g where
  marks := .empty _
  counters := by simp [Walk.start]
  links v hv := by simp [Walk.start, hv]

/-- Where a vertex stands once others are visited. -/
def standing (g : Graph) (visited : List Nat) (v : Nat) : Standing :=
  ⟨v, visited.countP fun u => g.Adj u v, (g.neighborList v).length⟩

/-- The vertices that are left. -/
def unvisited (g : Graph) (w : Walk) : List Nat := g.vertices.filter (· ∉ w.order.toList)

theorem mem_unvisited {v : Nat} :
    v ∈ unvisited g w ↔ v < g.vertexCount ∧ v ∉ w.order.toList := by
  simp [unvisited]

/-- A walk that has no vertex left has visited them all. -/
theorem Walk.Reached.complete (h : w.Reached g) (none : unvisited g w = []) :
    w.order.size = g.vertexCount := by
  apply Nat.le_antisymm h.marks.length_le
  have all : List.range g.vertexCount ⊆ w.order.toList := by
    intro v hv
    by_contra hmem
    have : v ∈ unvisited g w := mem_unvisited.mpr ⟨List.mem_range.mp hv, hmem⟩
    rw [none] at this
    cases this
  simpa using (List.nodup_range.subperm all).length_le

include wf

theorem Walk.Reached.standings_eq (h : w.Reached g) :
    w.standings g = .ok ((unvisited g w).map (standing g w.order.toList)) := by
  have left : keep (fun v => do return !(← read w.visited v)) g.vertices =
      .ok (unvisited g w) := by
    rw [keep_eq_filter (p := fun v => decide (v ∉ w.order.toList))]
    · rfl
    · intro v hv
      rw [h.marks.read_eq (Graph.mem_vertices.mp hv)]
      simp
  rw [Walk.standings, left]
  refine mapM_eq_map fun v hv => ?_
  have hv := (mem_unvisited.mp hv).1
  rw [read_eq_ok.mpr (h.links v hv), ok_bind, wf.degree_eq hv]
  rfl

theorem Walk.Reached.visit (h : w.Reached g) {v : Nat} (hv : v ∈ unvisited g w) :
    ∃ w', w.visit g v = .ok w' ∧ w'.Reached g ∧ w'.order = w.order.push v := by
  obtain ⟨inside, fresh⟩ := mem_unvisited.mp hv
  obtain ⟨links, added, size, counted⟩ := increments_spec w.links
    (show ∀ u ∈ g.neighborList v, u < w.links.size from fun u hu => h.counters ▸ wf.lt_of_adj' hu)
  obtain ⟨visited, marked, marks⟩ := h.marks.set_true inside fresh
  refine ⟨⟨visited, links, w.order.push v⟩, ?_, ?_, rfl⟩
  · rw [Walk.visit, marked, ok_bind, wf.row_eq inside, ok_bind, added]
    rfl
  · refine ⟨by rw [Array.toList_push]; exact marks, by rw [size, h.counters], fun u hu => ?_⟩
    rw [counted u, h.links u hu, Array.toList_push, List.countP_append, List.countP_singleton,
      Option.map_some]
    -- rows are without repetitions, so every neighbor is counted up once
    by_cases hvu : g.Adj v u
    · rw [List.count_eq_one_of_mem (wf.ascending' v).nodup hvu, if_pos (by simpa using hvu)]
    · rw [List.count_eq_zero.mpr hvu, if_neg (by simpa using hvu)]

/-- A walk with a step ahead of it has no vertex left, or goes on to the best of those that are. -/
theorem Walk.Reached.run_succ (h : w.Reached g) (steps : Nat) :
    unvisited g w = [] ∧ Walk.run g (steps + 1) w = .ok w ∨
      ∃ v w', v ∈ unvisited g w ∧
        best ((unvisited g w).map (standing g w.order.toList)) =
          some (standing g w.order.toList v) ∧
        w'.Reached g ∧ w'.order = w.order.push v ∧
        Walk.run g (steps + 1) w = Walk.run g steps w' := by
  rw [Walk.run, h.standings_eq wf, ok_bind]
  cases chosen : best ((unvisited g w).map (standing g w.order.toList)) with
  | none =>
    have none := best_eq_none chosen
    rw [List.map_eq_nil_iff] at none
    exact .inl ⟨none, rfl⟩
  | some s =>
    obtain ⟨v, hv, rfl⟩ := List.mem_map.mp (best_mem chosen)
    obtain ⟨w', visited, h', pushed⟩ := h.visit wf hv
    refine .inr ⟨v, w', hv, rfl, h', pushed, ?_⟩
    change (w.visit g v >>= Walk.run g steps) = _
    rw [visited]
    rfl

/-- A walk with enough steps ahead of it visits every vertex. -/
theorem Walk.Reached.run (h : w.Reached g) {steps : Nat}
    (enough : g.vertexCount ≤ w.order.size + steps) :
    ∃ w', Walk.run g steps w = .ok w' ∧ w'.Reached g ∧ w'.order.size = g.vertexCount := by
  induction steps generalizing w with
  | zero => exact ⟨w, rfl, h, Nat.le_antisymm h.marks.length_le enough⟩
  | succ steps ih =>
    rcases h.run_succ wf steps with ⟨none, ended⟩ | ⟨v, w', -, -, h', pushed, goesOn⟩
    · exact ⟨w, ended, h, h.complete none⟩
    · rw [goesOn]
      apply ih h'
      rw [pushed, Array.size_push]
      omega

end Walk

/-- The depths before `k` whose vertex is adjacent to `v`. -/
def joined (g : Graph) (order : Array Nat) (k v : Nat) : List Nat :=
  (List.range k).filter fun j => ∃ u ∈ order[j]?, g.Adj u v

/-- The depths before `k` whose vertex is not adjacent to `v`. -/
def apart (g : Graph) (order : Array Nat) (k v : Nat) : List Nat :=
  (List.range k).filter fun j => ∃ u ∈ order[j]?, ¬ g.Adj u v

theorem mem_joined {g : Graph} {order : Array Nat} {j k v : Nat} :
    j ∈ joined g order k v ↔ j < k ∧ ∃ u, order[j]? = some u ∧ g.Adj u v := by
  simp [joined]

theorem mem_apart {g : Graph} {order : Array Nat} {j k v : Nat} :
    j ∈ apart g order k v ↔ j < k ∧ ∃ u, order[j]? = some u ∧ ¬ g.Adj u v := by
  simp [apart]

/-- An order that visits each vertex of a pattern once and knows what each depth has to check. -/
structure Visits (g : Graph) (o : VisitOrder) : Prop where
  permutes : o.order.toList.Perm g.vertices
  degrees : ∀ k v : Nat, o.order[k]? = some v → o.degrees[k]? = some (g.neighborList v).length
  neighbors : ∀ k v : Nat, o.order[k]? = some v →
    o.earlierNeighbors[k]? = some (joined g o.order k v)
  strangers : ∀ k v : Nat, o.order[k]? = some v →
    o.earlierStrangers[k]? = some (apart g o.order k v)

theorem split_eq {g : Graph} (wf : g.WellFormed) {order : Array Nat}
    (inside : ∀ v ∈ order.toList, v < g.vertexCount) {k : Nat} (hk : k ≤ order.size) (v : Nat) :
    split g order k v = .ok (joined g order k v, apart g order k v) := by
  have kept : keep (fun j => do g.adjacent (← read order j) v) (List.range k) =
      .ok (joined g order k v) := by
    refine keep_eq_filter fun j hj => ?_
    have hj : j < order.size := Nat.lt_of_lt_of_le (List.mem_range.mp hj) hk
    rw [read_of_lt hj, ok_bind, wf.adjacent_eq (inside _ (Array.getElem_mem_toList hj))]
    simp [Array.getElem?_eq_getElem hj]
  have others : (List.range k).filter (· ∉ joined g order k v) = apart g order k v := by
    refine List.filter_congr fun j hj => ?_
    have hj := List.mem_range.mp hj
    have inside : j < order.size := Nat.lt_of_lt_of_le hj hk
    simp [mem_joined, hj, inside]
  rw [split, kept, ok_bind, others]
  rfl

/-- The order of a pattern is found, and visits it. -/
theorem ofPattern_spec {g : Graph} (wf : g.WellFormed) :
    ∃ o, ofPattern g = .ok o ∧ o.Visits g := by
  obtain ⟨w, run, reached, whole⟩ := Walk.reached_start.run wf
    (Nat.le_add_left g.vertexCount (Walk.start g).order.size)
  have degrees : w.order.toList.mapM g.degree =
      .ok (w.order.toList.map fun v => (g.neighborList v).length) :=
    mapM_eq_map fun v hv => wf.degree_eq (reached.marks.inside v hv)
  have splits : (w.order.toList.zipIdx.mapM fun v => split g w.order v.2 v.1) =
      .ok (w.order.toList.zipIdx.map fun v =>
        (joined g w.order v.2 v.1, apart g w.order v.2 v.1)) := by
    refine mapM_eq_map fun p hp => split_eq wf reached.marks.inside ?_ p.1
    have := (List.mem_zipIdx' hp).1
    rw [Array.length_toList] at this
    omega
  refine ⟨_, by rw [ofPattern, run, ok_bind, degrees, ok_bind, splits]; rfl, ?_, ?_, ?_, ?_⟩
  · refine reached.marks.distinct.subperm (fun v hv => ?_) |>.perm_of_length_le ?_
    · exact Graph.mem_vertices.mpr (reached.marks.inside v hv)
    · simp [Graph.vertices, whole]
  · intro k v hv
    have hv : w.order.toList[k]? = some v := by simpa using hv
    simp [hv]
  · intro k v hv
    have hv : w.order.toList[k]? = some v := by simpa using hv
    simp [hv]
  · intro k v hv
    have hv : w.order.toList[k]? = some v := by simpa using hv
    simp [hv]

end Motif.Matching.VisitOrder
