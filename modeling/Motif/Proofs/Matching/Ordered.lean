import Motif.Proofs.Matching.Embeddings

/-!
# The order of the rows

Candidates ascend at every depth, so the leaves of the tree come in lexicographic order of their
images, and a row holds the images of its leaf under the vertices of the visit order. A bound keeps
the front of this list, whichever root or search it falls into.
-/

set_option autoImplicit false

namespace Motif.Matching

theorem pairwise_candidateList (p : Problem) (images : List Nat) :
    (candidateList p images).Pairwise (· < ·) :=
  List.pairwise_lt_range.filter _

theorem pairwise_extensions (p : Problem) (levels : Nat) (images : List Nat) :
    (extensions p levels images).Pairwise (List.Lex (· < ·)) := by
  induction levels generalizing images with
  | zero => exact List.pairwise_singleton _ _
  | succ levels ih =>
    rw [extensions, List.pairwise_flatMap]
    constructor
    · intro w _
      exact ih (images ++ [w])
    · refine (pairwise_candidateList p images).imp ?_
      intro w w' hlt leaf hleaf leaf' hleaf'
      -- the leaves agree up to these images, and differ there
      obtain ⟨rest, rfl⟩ := prefix_of_mem_extensions hleaf
      obtain ⟨rest', rfl⟩ := prefix_of_mem_extensions hleaf'
      rw [List.append_assoc, List.append_assoc]
      apply List.Lex.append_left
      exact List.Lex.rel hlt

/-- Reading a row in the visit order gives the images it was arranged from. -/
theorem mapM_read_arrange {order : Array Nat} {n : Nat} (permutes : order.toList.Perm (List.range n))
    {images : List Nat} (length : images.length = n) :
    order.toList.mapM (read (arrange order images)) = .ok images := by
  have entry : ∀ v ∈ order.toList,
      read (arrange order images) v = .ok ((arrange order images)[v]?.getD 0) := by
    intro v hv
    have inside : v < (arrange order images).size := by
      rw [size_arrange, size_order permutes]
      exact List.mem_range.mp (permutes.mem_iff.mp hv)
    rw [read_of_lt inside, Array.getElem?_eq_getElem inside, Option.getD_some]
  rw [mapM_eq_map entry, Except.ok.injEq]
  apply List.ext_getElem
  · rw [List.length_map, Array.length_toList, size_order permutes, length]
  · intro k hk hk'
    have hk : k < order.size := by simpa using hk
    rw [List.getElem_map, Array.getElem_toList,
      getElem?_arrange permutes length (Array.getElem?_eq_getElem hk),
      List.getElem?_eq_getElem hk', Option.getD_some]

/-- A row goes before another if its images do, taken in the visit order. -/
def VisitOrder.GoesBefore (o : VisitOrder) (row row' : Array Nat) : Prop :=
  ∃ images images', o.order.toList.mapM (read row) = .ok images ∧
    o.order.toList.mapM (read row') = .ok images' ∧ List.Lex (· < ·) images images'

theorem Budget.limit_ofBound {α : Type} {bound : Nat} (some : 0 < bound) (xs : List α) :
    (Budget.ofBound bound).limit xs = xs.take (min bound xs.length) := by
  rw [Budget.ofBound, if_neg (Nat.ne_of_gt some)]
  change xs.take bound = _
  rw [List.take_eq_take_iff]
  omega

variable {target pattern : Graph}

theorem pairwise_rows_below {o : VisitOrder} (visits : o.Visits pattern) (kind : Kind) {levels : Nat}
    {images : List Nat} (whole : images.length + levels = pattern.vertexCount) :
    ((extensions ⟨target, o, kind⟩ levels images).map (arrange o.order)).Pairwise
      o.GoesBefore := by
  rw [List.pairwise_map]
  refine List.Pairwise.imp_of_mem ?_ (pairwise_extensions _ _ _)
  intro leaf leaf' hleaf hleaf' before
  have length {leaf : List Nat} (hleaf : leaf ∈ extensions ⟨target, o, kind⟩ levels images) :
      leaf.length = pattern.vertexCount := (mem_extensions.mp hleaf).2.1.trans whole
  exact ⟨leaf, leaf', mapM_read_arrange visits.permutes (length hleaf),
    mapM_read_arrange visits.permutes (length hleaf'), before⟩

theorem pairwise_rows {o : VisitOrder} (visits : o.Visits pattern) (kind : Kind) :
    ((extensions ⟨target, o, kind⟩ pattern.vertexCount []).map (arrange o.order)).Pairwise
      o.GoesBefore :=
  pairwise_rows_below visits kind (Nat.zero_add _)

/-- The rows of a search without a bound ascend, compared image by image in the visit order, and a
bound keeps as many of the first of them as it allows. -/
theorem embeddings_ordered (targetMade : target.Constructed) (patternMade : pattern.Constructed)
    (targetSome : 0 < target.vertexCount) (patternSome : 0 < pattern.vertexCount) (kind : Kind) :
    ∃ o all, VisitOrder.ofPattern pattern = .ok o ∧
      Finds ⟨kind, false, 0⟩ target pattern all ∧
      all.table.rows.Pairwise o.GoesBefore ∧
      ∀ bound : Nat, 0 < bound → ∃ first,
        Finds ⟨kind, false, bound⟩ target pattern first ∧
        first.count = min bound all.count ∧
        first.table.rows = all.table.rows.take (min bound all.count) ∧
        first.table = .ofRows all.table.columnCount (all.table.rows.take (min bound all.count)) := by
  obtain ⟨o, ordered, visits, found⟩ := embeddings_eq_limit targetMade.wellFormed
    patternMade.wellFormed targetSome patternSome kind
  have size : o.order.size = pattern.vertexCount := size_order visits.permutes
  generalize leaves : extensions ⟨target, o, kind⟩ pattern.vertexCount [] = images at found
  have rows (front : List (List Nat)) :
      (Table.ofRows pattern.vertexCount (front.map (arrange o.order))).rows =
        front.map (arrange o.order) :=
    Table.rows_ofRows (fun row hrow => (size_of_mem_map_arrange row hrow).trans size) patternSome
  have unlimited : (Budget.ofBound 0).limit images = images := rfl
  have everything := found 0
  rw [unlimited] at everything
  refine ⟨o, _, ordered, everything, ?_, ?_⟩
  · rw [rows, ← leaves]
    exact pairwise_rows visits kind
  · intro bound some
    have front := found bound
    rw [Budget.limit_ofBound some, List.map_take] at front
    refine ⟨_, front, ?_, ?_, ?_⟩
    · rw [List.length_take]
      exact Nat.min_eq_left (Nat.min_le_right _ _)
    · rw [← List.map_take, rows, rows, List.map_take]
    · rw [rows]
      rfl

/-- The rows of a path of three vertices in one of four. They ascend by their middle column, which is
visited first. -/
theorem embeddings_ordered_path : ∃ target pattern o all first,
    Graph.ofEdges [(0, 1), (1, 2), (2, 3)] = .ok target ∧
      Graph.ofEdges [(0, 1), (1, 2)] = .ok pattern ∧
      VisitOrder.ofPattern pattern = .ok o ∧ o.order = #[1, 0, 2] ∧
      Finds ⟨.induced, false, 0⟩ target pattern all ∧
      all.table.rows = [#[0, 1, 2], #[2, 1, 0], #[1, 2, 3], #[3, 2, 1]] ∧
      all.table.rows.Pairwise o.GoesBefore ∧
      Finds ⟨.induced, false, 3⟩ target pattern first ∧
      first.table.rows = [#[0, 1, 2], #[2, 1, 0], #[1, 2, 3]] := by
  have target : Graph.ofEdges [(0, 1), (1, 2), (2, 3)] =
      .ok ⟨3, #[0, 1, 3, 5, 6], #[1, 0, 2, 1, 3, 2], #[1, 2, 2, 1]⟩ := by cbv
  have pattern : Graph.ofEdges [(0, 1), (1, 2)] =
      .ok ⟨2, #[0, 1, 3, 4], #[1, 0, 2, 1], #[1, 2, 1]⟩ := by cbv
  have order : VisitOrder.ofPattern ⟨2, #[0, 1, 3, 4], #[1, 0, 2, 1], #[1, 2, 1]⟩ =
      .ok ⟨#[1, 0, 2], #[2, 1, 1], #[[], [0], [0]], #[[], [], [1]]⟩ := by cbv
  obtain ⟨o, all, ordered, everything, ascending, bounded⟩ := embeddings_ordered (.ofEdges target)
    (.ofEdges pattern) (by decide) (by decide) .induced
  obtain ⟨first, front, -, rows, -⟩ := bounded 3 (by decide)
  rw [order, Except.ok.injEq] at ordered
  subst ordered
  -- the leaves of the tree are few enough to be listed
  obtain ⟨o, ordered, -, found⟩ := embeddings_eq_limit (Graph.Constructed.ofEdges target).wellFormed
    (Graph.Constructed.ofEdges pattern).wellFormed (by decide) (by decide) .induced
  rw [order, Except.ok.injEq] at ordered
  subst ordered
  have same := (found 0).unique everything
  have list : all.table.rows = [#[0, 1, 2], #[2, 1, 0], #[1, 2, 3], #[3, 2, 1]] := by
    rw [← same]
    decide +kernel
  have count : all.count = 4 := by
    rw [← same]
    decide +kernel
  rw [list, count] at rows
  exact ⟨_, _, _, all, first, target, pattern, order, rfl, everything, list, ascending, front, rows⟩

end Motif.Matching
