import Motif.Proofs.Graph.Constructed
import Motif.Proofs.Matching.Memory
import Motif.Proofs.Matching.Worker

/-!
# All embeddings, each once

The workers go from root to root and share one budget, so what they keep are the first rows of the
whole tree. Without a bound these are all embeddings of the pattern, and none is kept twice.
-/

set_option autoImplicit false

namespace Motif.Matching

/-- The leaves below some roots. -/
def below (p : Problem) (roots : List Nat) : List (List Nat) :=
  roots.flatMap fun root => extensions p (p.order.size - 1) [root]

/-- What is kept after some roots are the first of the rows below them. -/
structure Progress.Kept (p : Problem) (bound : Nat) (roots : List Nat) (s : Progress) : Prop where
  coherent : s.search.Coherent p
  budget : s.budget =
    (Budget.ofBound bound).spend ((Budget.ofBound bound).limit (below p roots)).length
  table : s.table = .ofRows p.order.size
    (((Budget.ofBound bound).limit (below p roots)).map (arrange p.order.order))

section Collect

variable {p : Problem} {pattern : Graph} (target : p.target.WellFormed)
  (visits : p.order.Visits pattern) (room : 0 < p.order.size)
include target visits room

/-- The roots are the candidates for the first image. -/
theorem roots_eq : roots p = .ok (candidateList p []) := by
  obtain ⟨v, hv⟩ : ∃ v, p.order.order[0]? = some v := ⟨_, Array.getElem?_eq_getElem room⟩
  have degree := visits.degrees 0 v hv
  rw [roots, read_eq_ok.mpr degree, ok_bind]
  refine (keep_eq_filter (p := fun w =>
    decide ((pattern.neighborList v).length ≤ (p.target.neighborList w).length))
    fun w hw => ?_).trans ?_
  · rw [target.degree_eq (Graph.mem_vertices.mp hw)]
    rfl
  · rw [candidateList, Except.ok.injEq]
    refine List.filter_congr fun w _ => ?_
    rw [decide_eq_decide, extends_iff visits (show p.order.order[([] : List Nat).length]? = some v from hv)]
    simp [VisitOrder.joined, VisitOrder.apart]

omit target visits room in
theorem below_snoc (roots : List Nat) (root : Nat) :
    below p (roots ++ [root]) = below p roots ++ extensions p (p.order.size - 1) [root] := by
  simp [below]

omit target visits in
theorem below_candidateList : below p (candidateList p []) = extensions p p.order.size [] := by
  obtain ⟨n, hn⟩ := Nat.exists_eq_add_of_lt room
  rw [below, hn, Nat.zero_add, Nat.add_sub_cancel, extensions]
  rfl

theorem Progress.Kept.visit {bound root : Nat} {roots : List Nat} {s : Progress}
    (h : s.Kept p bound roots) (inside : root < p.target.vertexCount) :
    ∃ s', Progress.visit .unlimited p p.order.size s root = .ok s' ∧ s'.Kept p bound (roots ++ [root]) := by
  obtain ⟨w, run, coherent, rows⟩ :=
    Worker.run_waiting target visits (b := s.budget) h.coherent inside room
  have visited : Progress.visit .unlimited p p.order.size s root = .ok
      ⟨s.budget.spend (s.budget.limit (extensions p (p.order.size - 1) [root])).length, w.search,
        .ofRows p.order.size ((((Budget.ofBound bound).limit (below p roots)).map
          (arrange p.order.order)) ++ (s.budget.limit
            (extensions p (p.order.size - 1) [root])).map (arrange p.order.order))⟩ := by
    rw [Progress.visit, run, ok_bind]
    dsimp only
    rw [h.table, rows, Table.append_ofRows]
    rfl
  refine ⟨_, visited, coherent, ?_, ?_⟩
  · rw [below_snoc, Budget.limit_append, List.length_append, ← Budget.spend_spend, ← h.budget]
  · rw [below_snoc, Budget.limit_append, List.map_append, ← h.budget]

/-- The table holds the first rows of the tree, as many as the bound allows. -/
theorem collect_eq (bound : Nat) :
    collect .unlimited p p.order.size bound = .ok (.ofRows p.order.size
      (((Budget.ofBound bound).limit (extensions p p.order.size [])).map
        (arrange p.order.order))) := by
  obtain ⟨s, run, kept⟩ := foldlM_invariant (Progress.visit .unlimited p p.order.size) (candidateList p [])
    (fun roots s => s.Kept p bound roots)
    (fun roots root s front h => by
      have hroot : root ∈ candidateList p [] :=
        front.mem (List.mem_append_right _ List.mem_cons_self)
      exact h.visit target visits room (mem_candidateList.mp hroot).1)
    (s := ⟨.ofBound bound, .start p.target, .empty p.order.size⟩)
    ⟨Search.coherent_start, by simp [below], by simp [below, Table.ofRows_nil]⟩
  rw [collect, roots_eq target visits room, ok_bind, run, ok_bind, kept.table,
    below_candidateList room]
  rfl

end Collect

section Embeddings

variable {target pattern : Graph}

theorem check_eq (targetSome : 0 < target.vertexCount) (patternSome : 0 < pattern.vertexCount)
    (kind : Kind) (bound : Nat) : check ⟨kind, false, bound⟩ target pattern = .ok bound := by
  have targetNonempty := Graph.not_isEmpty_iff.mpr targetSome
  have patternNonempty := Graph.not_isEmpty_iff.mpr patternSome
  change (if target.isEmpty then Except.error Error.emptyTarget
    else if pattern.isEmpty then Except.error Error.emptyPattern else Except.ok bound) = _
  rw [if_neg targetNonempty, if_neg patternNonempty]

/-- The embeddings are the first rows of the tree, as many as the bound allows. -/
theorem embeddings_eq (targetFits : target.WellFormed) (patternFits : pattern.WellFormed)
    (targetSome : 0 < target.vertexCount) (patternSome : 0 < pattern.vertexCount)
    (large : pattern.vertexCount ≤ target.vertexCount) (kind : Kind) (bound : Nat) :
    ∃ o, VisitOrder.ofPattern pattern = .ok o ∧ o.Visits pattern ∧
      embeddings .unlimited ⟨kind, false, bound⟩ target pattern = .ok
        ⟨.ofRows pattern.vertexCount (((Budget.ofBound bound).limit
          (extensions ⟨target, o, kind⟩ pattern.vertexCount [])).map (arrange o.order)),
        ((Budget.ofBound bound).limit
          (extensions ⟨target, o, kind⟩ pattern.vertexCount [])).length⟩ := by
  obtain ⟨o, ordered, visits⟩ := VisitOrder.ofPattern_spec patternFits
  refine ⟨o, ordered, visits, ?_⟩
  have size : o.size = pattern.vertexCount := size_order visits.permutes
  have collected := collect_eq (p := ⟨target, o, kind⟩) targetFits visits
    (size.symm ▸ patternSome) bound
  dsimp only at collected
  rw [size] at collected
  rw [embeddings, check_eq targetSome patternSome, ok_bind, if_neg (Nat.not_lt.mpr large), ordered,
    ok_bind, collected, ok_bind,
    Table.rowCount_ofRows (fun row hrow => (size_of_mem_map_arrange row hrow).trans size) patternSome,
    List.length_map]
  rfl

/-- A pattern larger than the target has no leaves, so there is one answer for all pairs of graphs. -/
theorem embeddings_eq_limit (targetFits : target.WellFormed) (patternFits : pattern.WellFormed)
    (targetSome : 0 < target.vertexCount) (patternSome : 0 < pattern.vertexCount) (kind : Kind) :
    ∃ o, VisitOrder.ofPattern pattern = .ok o ∧ o.Visits pattern ∧ ∀ bound : Nat,
      Finds ⟨kind, false, bound⟩ target pattern
        ⟨.ofRows pattern.vertexCount (((Budget.ofBound bound).limit
          (extensions ⟨target, o, kind⟩ pattern.vertexCount [])).map (arrange o.order)),
        ((Budget.ofBound bound).limit
          (extensions ⟨target, o, kind⟩ pattern.vertexCount [])).length⟩ := by
  obtain ⟨o, ordered, visits⟩ := VisitOrder.ofPattern_spec patternFits
  refine ⟨o, ordered, visits, ?_⟩
  intro bound
  rw [finds_iff]
  by_cases large : pattern.vertexCount ≤ target.vertexCount
  · obtain ⟨o', ordered', -, found⟩ :=
      embeddings_eq targetFits patternFits targetSome patternSome large kind bound
    rw [ordered, Except.ok.injEq] at ordered'
    rw [ordered']
    exact found
  · have none : extensions ⟨target, o, kind⟩ pattern.vertexCount [] = [] := by
      apply List.eq_nil_iff_forall_not_mem.mpr
      intro images himages
      have embedded := (mem_map_arrange (p := ⟨target, o, kind⟩) visits targetFits patternFits _).mp
        (List.mem_map_of_mem himages)
      exact large embedded.vertexCount_le
    rw [none, Budget.limit_nil, embeddings, check_eq targetSome patternSome, ok_bind,
      if_pos (Nat.not_le.mp large)]
    rfl

/-- Each embedding in one row, and no other row. -/
structure Embeddings.Complete (kind : Kind) (target pattern : Graph) (found : Embeddings) :
    Prop where
  nodup : found.table.rows.Nodup
  mem_rows : ∀ row, row ∈ found.table.rows ↔ IsEmbedding kind target pattern row
  count : found.count = found.table.rows.length
  columns : found.table.columnCount = pattern.vertexCount

theorem exists_complete (targetFits : target.WellFormed) (patternFits : pattern.WellFormed)
    (targetSome : 0 < target.vertexCount) (patternSome : 0 < pattern.vertexCount) (kind : Kind) :
    ∃ found, Finds ⟨kind, false, 0⟩ target pattern found ∧
      found.Complete kind target pattern := by
  obtain ⟨o, -, visits, limited⟩ :=
    embeddings_eq_limit targetFits patternFits targetSome patternSome kind
  have found := limited 0
  have rows := Table.rows_ofRows (fun row (hrow : row ∈ (extensions ⟨target, o, kind⟩
    pattern.vertexCount []).map (arrange o.order)) =>
      (size_of_mem_map_arrange row hrow).trans (size_order visits.permutes)) patternSome
  rw [show (Budget.ofBound 0).limit (extensions ⟨target, o, kind⟩ pattern.vertexCount []) =
    extensions ⟨target, o, kind⟩ pattern.vertexCount [] from rfl] at found
  refine ⟨_, found, ?_, ?_, ?_, rfl⟩
  · rw [rows]
    exact nodup_map_arrange (p := ⟨target, o, kind⟩) visits
  · intro row
    rw [rows]
    exact mem_map_arrange (p := ⟨target, o, kind⟩) visits targetFits patternFits row
  · rw [rows, List.length_map]

/-- Every search without a bound ends with each embedding once, for any two graphs that have
vertices and any memory that has room for the table; a pattern larger than the target has none. -/
theorem embeddings_complete {target pattern : Graph} (targetMade : target.Constructed)
    (patternMade : pattern.Constructed) (targetSome : 0 < target.vertexCount)
    (patternSome : 0 < pattern.vertexCount) (kind : Kind) :
    ∃ found, Finds ⟨kind, false, 0⟩ target pattern found ∧
      found.table.rows.Nodup ∧
      (∀ row, row ∈ found.table.rows ↔ IsEmbedding kind target pattern row) ∧
      found.count = found.table.rows.length ∧
      found.table.columnCount = pattern.vertexCount ∧
      (target.vertexCount < pattern.vertexCount → found.table.rows = []) := by
  obtain ⟨found, run, complete⟩ :=
    exists_complete targetMade.wellFormed patternMade.wellFormed targetSome patternSome kind
  refine ⟨found, run, complete.nodup, complete.mem_rows, complete.count, complete.columns, ?_⟩
  intro small
  rw [List.eq_nil_iff_forall_not_mem]
  intro row listed
  exact Nat.not_lt.mpr ((complete.mem_rows row).mp listed).vertexCount_le small

/-- A path in a triangle with a tail: its ends may not be joined. -/
theorem embeddings_complete_path :
    ∃ target pattern found, Graph.ofEdges [(0, 1), (1, 2), (2, 0), (2, 3)] = .ok target ∧
      Graph.ofEdges [(0, 1), (1, 2)] = .ok pattern ∧
      Finds ⟨.induced, false, 0⟩ target pattern found ∧
      #[0, 2, 3] ∈ found.table.rows ∧ #[0, 1, 2] ∉ found.table.rows := by
  have target : Graph.ofEdges [(0, 1), (1, 2), (2, 0), (2, 3)] =
      .ok ⟨4, #[0, 2, 4, 7, 8], #[1, 2, 0, 2, 0, 1, 3, 2], #[2, 2, 3, 1]⟩ := by cbv
  have pattern : Graph.ofEdges [(0, 1), (1, 2)] =
      .ok ⟨2, #[0, 1, 3, 4], #[1, 0, 2, 1], #[1, 2, 1]⟩ := by cbv
  obtain ⟨found, run, -, rows, -⟩ := embeddings_complete (.ofEdges target) (.ofEdges pattern)
    (by decide) (by decide) .induced
  refine ⟨_, _, found, target, pattern, run, (rows _).mpr ?_, fun h => ?_⟩
  · decide +kernel
  · have := (rows _).mp h
    revert this
    decide +kernel

end Embeddings

end Motif.Matching
