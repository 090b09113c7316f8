import Motif.Proofs.Matching.Embeddings
import Motif.Proofs.Triangles.PerVertex

/-!
# No fault from outside

A fault is an access that fails or a precondition that does not hold. Every chain of calls that build
and renumber graphs keeps them well-formed, and on well-formed graphs counting and matching run to
their end or refuse what was asked for with an error of its own. The only way to a fault is to ask a
graph about a vertex that it does not have.
-/

set_option autoImplicit false

namespace Motif

variable {α β : Type}

/-- A call that stops at a failed access or a broken precondition. -/
def Faults (x : Except Error α) : Prop := ∃ cause, x = .error (.fault cause)

theorem not_faults_ok (a : α) : ¬ Faults (.ok a : Except Error α) := by
  rintro ⟨cause, failed⟩
  cases failed

theorem not_faults_error {e : Error} (own : ∀ cause, e ≠ .fault cause) :
    ¬ Faults (.error e : Except Error α) := by
  rintro ⟨cause, failed⟩
  exact own cause (Except.error.inj failed)

/-- A want of memory is an error of its own. -/
theorem Exhausted.not_faults {x : Except Error α} (h : Exhausted x) : ¬ Faults x := by
  obtain ⟨e, rfl, category⟩ := h
  refine not_faults_error ?_
  rintro cause rfl
  cases category

/-- A sequence whose first part fails faults exactly if that does. -/
theorem faults_bind_of_error {x : Except Error α} {e : Error} (failed : x = .error e)
    (f : α → Except Error β) : Faults (x >>= f) ↔ Faults x := by
  simp only [failed, error_bind, Faults, Except.error.injEq]

theorem Faults.bind {x : Except Error α} (h : Faults x) (f : α → Except Error β) :
    Faults (x >>= f) := by
  obtain ⟨cause, rfl⟩ := h
  exact ⟨cause, rfl⟩

theorem faults_read {xs : Array α} {i : Nat} (outside : xs.size ≤ i) : Faults (read xs i) := by
  rw [read, Array.getElem?_eq_none outside]
  exact ⟨_, rfl⟩

/-- A call that answers where `inside` holds, and faults elsewhere. -/
theorem faults_iff {inside : Prop} {x : Except Error α} (answers : inside → ∃ a, x = .ok a)
    (fails : ¬ inside → Faults x) : Faults x ↔ ¬ inside := by
  refine ⟨fun faults holds => ?_, fails⟩
  obtain ⟨a, rfl⟩ := answers holds
  exact not_faults_ok a faults

namespace Graph

section Construction

theorem not_faults_vertexBound (edges : List Edge) : ¬ Faults (vertexBound edges) := by
  unfold vertexBound
  split
  · exact not_faults_error nofun
  · split
    · exact not_faults_error nofun
    · exact not_faults_ok _

/-- Every slot that a pass claims and every row that it cuts is there. -/
theorem not_faults_build (edges : List Edge) (minimum : Nat) : ¬ Faults (build edges minimum) := by
  by_cases valid : ValidIds edges
  · obtain ⟨edgeCount, -, made⟩ := exists_build valid minimum
    rw [made]
    split
    · exact not_faults_ok _
    · exact not_faults_error nofun
  · cases bound : vertexBound edges with
    | ok n => exact absurd (vertexBound_eq_ok_iff.mp bound).1 valid
    | error e =>
      rw [build, faults_bind_of_error bound]
      exact not_faults_vertexBound edges

theorem not_faults_ofEdges (edges : List Edge) : ¬ Faults (ofEdges edges) := by
  unfold ofEdges
  split
  · exact not_faults_error nofun
  · exact not_faults_build edges 0

theorem not_faults_ofAdjacency (lists : List (List Int)) : ¬ Faults (ofAdjacency lists) := by
  unfold ofAdjacency
  split
  · exact not_faults_error nofun
  · exact not_faults_build _ _

end Construction

/-- An id that names a vertex of the graph. -/
def Names (g : Graph) (id : Int) : Prop := 0 ≤ id ∧ id < g.vertexCount

section Access

variable {g : Graph} (wf : g.WellFormed)
include wf

/-- The offsets cut the neighbors into rows, each as long as the degree of its vertex. -/
theorem cutRows_neighbors :
    ∃ rows, cutRows g.neighbors g.rowOffsets = .ok rows ∧ rows.map Array.size = g.degrees.toList := by
  refine ⟨(g.vertices.map g.neighborList).map List.toArray, ?_, ?_⟩
  · conv_lhs => rw [wf.eq_ofLists]
    exact cutRows_flatten _
  · rw [wf.degrees_eq]
    simp

/-- There is an offset for the vertex count itself, but none behind it. -/
theorem faults_row {v : Nat} (outside : g.vertexCount ≤ v) : Faults (g.row v) := by
  have size := wf.size_rowOffsets
  by_cases last : v < g.rowOffsets.size
  · rw [row, read_of_lt last, ok_bind]
    exact (faults_read (by omega)).bind _
  · exact (faults_read (by omega)).bind _

omit wf in
/-- A question that is answered for every vertex and no other number is answered for the ids that name
a vertex. -/
theorem faults_vertexOf_iff {ask : Nat → Except Error α}
    (inside : ∀ v < g.vertexCount, ∃ a, ask v = .ok a)
    (outside : ∀ v, g.vertexCount ≤ v → Faults (ask v)) (id : Int) :
    Faults (g.vertexOf id >>= ask) ↔ ¬ g.Names id := by
  apply faults_iff
  · rintro ⟨nonneg, below⟩
    obtain ⟨v, rfl⟩ := Int.eq_ofNat_of_zero_le nonneg
    exact inside v (by omega)
  · intro unnamed
    cases id with
    | ofNat v =>
      apply outside v
      by_contra below
      exact unnamed ⟨Int.natCast_nonneg v, Int.ofNat_lt.mpr (Nat.not_le.mp below)⟩
    | negSucc v => exact ⟨_, rfl⟩

theorem faults_neighborsOf_iff (id : Int) : Faults (g.neighborsOf id) ↔ ¬ g.Names id :=
  faults_vertexOf_iff (fun _ hv => ⟨_, wf.row_eq hv⟩) (fun _ outside => faults_row wf outside) id

theorem faults_degreeOf_iff (id : Int) : Faults (g.degreeOf id) ↔ ¬ g.Names id :=
  faults_vertexOf_iff (fun _ hv => ⟨_, wf.degree_eq hv⟩) (fun _ outside => faults_read outside) id

/-- Any second id is answered, as one that names no vertex is in no row. -/
theorem faults_hasEdge_iff (u v : Int) : Faults (g.hasEdge u v) ↔ ¬ g.Names u := by
  rw [← faults_neighborsOf_iff wf]
  cases found : g.neighborsOf u with
  | error e => rw [hasEdge, faults_bind_of_error found, found]
  | ok ns =>
    rw [hasEdge, found, ok_bind]
    apply iff_of_false
    · cases v with
      | ofNat w => exact not_faults_ok _
      | negSucc w => exact not_faults_ok _
    · exact not_faults_ok ns

end Access

end Graph

namespace Matching

/-- What the workers of one search go through, each with a search that may have been left anywhere
before, and whatever the others leave of the budget between two of its steps. -/
inductive Worker.Reachable (p : Problem) (columns : Nat) : Worker → Prop
  | first {candidates : List Nat} {root : Nat} : roots p = .ok candidates → root ∈ candidates →
      Reachable p columns (.waiting columns root (.start p.target))
  | next {w : Worker} {candidates : List Nat} {root : Nat} : Reachable p columns w →
      roots p = .ok candidates → root ∈ candidates →
      Reachable p columns (.waiting columns root w.search)
  | step {memory : Memory} {w w' : Worker} {b b' : Budget} : Reachable p columns w →
      w.step memory p b = .ok (b', w') → Reachable p columns w'

section Workers

variable {p : Problem} {pattern : Graph} (target : p.target.WellFormed)
  (visits : p.order.Visits pattern) (room : 0 < p.order.size)
include target visits room

theorem lt_of_mem_roots {candidates : List Nat} (rooted : roots p = .ok candidates) {root : Nat}
    (hroot : root ∈ candidates) : root < p.target.vertexCount := by
  rw [roots_eq target visits room, Except.ok.injEq] at rooted
  rw [← rooted] at hroot
  exact (mem_candidateList.mp hroot).1

theorem Worker.Reachable.sound {w : Worker} (reachable : w.Reachable p p.order.size) :
    w.Sound p := by
  induction reachable with
  | first rooted hroot =>
    exact sound_waiting Search.coherent_start (lt_of_mem_roots target visits room rooted hroot)
  | next _ rooted hroot sound =>
    exact sound_waiting sound.coherent (lt_of_mem_roots target visits room rooted hroot)
  | @step memory w w' b b' _ stepped sound =>
    obtain ⟨b'', w'', stepped', sound'⟩ := sound.step target visits room b
    rw [(w.asks_step p b).unlimited_of_ok stepped, Except.ok.injEq, Prod.mk.injEq] at stepped'
    exact stepped'.2 ▸ sound'

end Workers

variable {target pattern : Graph}

/-- A search that is not refused. -/
theorem check_eq_ok {options : Options} {bound : Nat}
    (checked : check options target pattern = .ok bound) :
    options = ⟨options.kind, false, bound⟩ ∧ 0 < target.vertexCount ∧ 0 < pattern.vertexCount := by
  obtain ⟨kind, semantic, asked⟩ := options
  unfold check at checked
  cases asked with
  | negSucc n => cases checked
  | ofNat n =>
    dsimp only at checked
    split_ifs at checked with labelled noTarget noPattern
    obtain rfl : n = bound := Except.ok.inj checked
    refine ⟨?_, ?_, ?_⟩
    · rw [Bool.not_eq_true] at labelled
      rw [labelled]
      rfl
    · exact Graph.not_isEmpty_iff.mp noTarget
    · exact Graph.not_isEmpty_iff.mp noPattern

theorem not_faults_check (options : Options) : ¬ Faults (check options target pattern) := by
  unfold check
  split
  · exact not_faults_error nofun
  · split_ifs
    · exact not_faults_error nofun
    · exact not_faults_error nofun
    · exact not_faults_error nofun
    · exact not_faults_ok _

/-- What is not refused before the search is answered by it. -/
theorem embeddings_answers (targetFits : target.WellFormed) (patternFits : pattern.WellFormed)
    {options : Options} {bound : Nat} (checked : check options target pattern = .ok bound) :
    ∃ found, Finds options target pattern found := by
  obtain ⟨asked, targetSome, patternSome⟩ := check_eq_ok checked
  obtain ⟨o, -, -, limited⟩ :=
    embeddings_eq_limit targetFits patternFits targetSome patternSome options.kind
  rw [asked]
  exact ⟨_, limited bound⟩

theorem not_faults_embeddings (targetFits : target.WellFormed) (patternFits : pattern.WellFormed)
    (options : Options) (memory : Memory) : ¬ Faults (embeddings memory options target pattern) := by
  cases checked : check options target pattern with
  | error e =>
    rw [embeddings, faults_bind_of_error checked]
    exact not_faults_check options
  | ok bound =>
    obtain ⟨found, finds⟩ := embeddings_answers targetFits patternFits checked
    rcases finds.limited memory with run | short
    · rw [run]
      exact not_faults_ok found
    · exact short.not_faults

theorem Worker.Reachable.steps (targetFits : target.WellFormed) (patternFits : pattern.WellFormed)
    {options : Options} {bound : Nat} (checked : check options target pattern = .ok bound)
    {order : VisitOrder} (ordered : VisitOrder.ofPattern pattern = .ok order) {w : Worker}
    (reachable : w.Reachable ⟨target, order, options.kind⟩ pattern.vertexCount) (budget : Budget) :
    ∃ next, Gives (fun memory => w.step memory ⟨target, order, options.kind⟩ budget)
      next.2.rows.data.size next := by
  obtain ⟨order', ordered', visits⟩ := VisitOrder.ofPattern_spec patternFits
  rw [ordered, Except.ok.injEq] at ordered'
  subst ordered'
  have size : order.size = pattern.vertexCount := size_order visits.permutes
  have room : 0 < order.size := size ▸ (check_eq_ok checked).2.2
  rw [← size] at reachable
  have sound := reachable.sound (p := ⟨target, order, options.kind⟩) targetFits visits room
  obtain ⟨b, w', stepped, -⟩ := sound.step targetFits visits room budget
  exact ⟨_, (w.asks_step _ budget).gives _ stepped⟩

end Matching

namespace Triangles

theorem rank_answers {g : Graph} (wf : g.WellFormed) (processor : Intersection.Processor)
    (options : Options) (fits : options.task = .total → (triangles g).card < sizeLimit) :
    ∃ ranking, rank processor options g = .ok ranking := by
  obtain ⟨task, renumber, threshold⟩ := options
  cases task with
  | total =>
    have total := rankWith_total_eq_fit wf renumber threshold _ (counts_detect processor)
    rw [fit_of_lt (fits rfl)] at total
    exact ⟨_, total⟩
  | perVertex =>
    obtain ⟨counts, ranked, -⟩ := rankWith_perVertex_spec wf renumber threshold
      (Intersection.Strategy.detect processor).size
    exact ⟨_, ranked⟩

end Triangles

open Triangles Matching

/-- Building a graph never faults, whatever it is built from. On a graph that is built from outside,
its rows can be cut out and its vertices renumbered, and counting gives a result, as long as the
number of triangles is one of 64 bits. Matching gives a result unless it is refused with an error of
its own or there is no room for the result, and no worker gets stuck in between, in whatever order the
workers spend their budget. The three questions about a vertex fault exactly if there is no such
vertex. -/
theorem faults_only_outside :
    (∀ edges, ¬ Faults (Graph.ofEdges edges)) ∧ (∀ lists, ¬ Faults (Graph.ofAdjacency lists)) ∧
      ∀ g : Graph, g.Constructed →
        (∃ r, g.renumberByDegree = .ok r) ∧
        (∃ rows, Graph.cutRows g.neighbors g.rowOffsets = .ok rows ∧
          rows.map Array.size = g.degrees.toList) ∧
        (∃ edges, g.edges = .ok edges) ∧
        (∀ processor options, (options.task = .total → (triangles g).card < sizeLimit) →
          ∃ ranking, rank processor options g = .ok ranking) ∧
        (∀ pattern : Graph, pattern.Constructed → ∀ options,
          (∀ memory, ¬ Faults (embeddings memory options g pattern)) ∧
          ∀ bound, check options g pattern = .ok bound →
            (∃ found, Finds options g pattern found) ∧
            ∀ order, VisitOrder.ofPattern pattern = .ok order → ∀ w : Worker,
              w.Reachable ⟨g, order, options.kind⟩ pattern.vertexCount →
              ∀ budget, ∃ next, Gives (fun memory => w.step memory ⟨g, order, options.kind⟩ budget)
                next.2.rows.data.size next) ∧
        ∀ v w : Int,
          (Faults (g.neighborsOf v) ↔ ¬ (0 ≤ v ∧ v < g.vertexCount)) ∧
          (Faults (g.degreeOf v) ↔ ¬ (0 ≤ v ∧ v < g.vertexCount)) ∧
          (Faults (g.hasEdge v w) ↔ ¬ (0 ≤ v ∧ v < g.vertexCount)) := by
  refine ⟨Graph.not_faults_ofEdges, Graph.not_faults_ofAdjacency, ?_⟩
  intro g made
  have wf := made.wellFormed
  refine ⟨?_, Graph.cutRows_neighbors wf, ⟨_, wf.edges_eq⟩, rank_answers wf, ?_, ?_⟩
  · obtain ⟨r, turned, -⟩ := wf.renumberByDegree_spec
    exact ⟨r, turned⟩
  · intro pattern patternMade options
    refine ⟨not_faults_embeddings wf patternMade.wellFormed options, ?_⟩
    intro bound checked
    refine ⟨embeddings_answers wf patternMade.wellFormed checked, ?_⟩
    intro order ordered w reachable budget
    exact reachable.steps wf patternMade.wellFormed checked ordered budget
  · intro v w
    exact ⟨Graph.faults_neighborsOf_iff wf v, Graph.faults_degreeOf_iff wf v,
      Graph.faults_hasEdge_iff wf v w⟩

/-- A triangle has an offset for the id `3`, but no vertex of that name; and an edge to `-1` can be
asked for at a vertex that it has. -/
theorem faults_only_outside_triangle : ∃ g pattern order ranking found next,
    Graph.ofEdges [(0, 1), (1, 2), (2, 0)] = .ok g ∧ Graph.ofEdges [(0, 1)] = .ok pattern ∧
      (triangles g).card < sizeLimit ∧ rank ⟨true, false, false⟩ ⟨.total, true, 1⟩ g = .ok ranking ∧
      check ⟨.induced, false, 1⟩ g pattern = .ok 1 ∧ VisitOrder.ofPattern pattern = .ok order ∧
      Finds ⟨.induced, false, 1⟩ g pattern found ∧
      Worker.step .unlimited ⟨g, order, .induced⟩ ⟨some 1⟩ (.waiting 2 0 (.start g)) = .ok next ∧
      g.rowOffsets[3]? = some 6 ∧ ¬ Faults (g.neighborsOf 2) ∧ Faults (g.neighborsOf 3) ∧
      Faults (g.degreeOf (-1)) ∧ ¬ Faults (g.hasEdge 0 (-1)) := by
  have made : Graph.ofEdges [(0, 1), (1, 2), (2, 0)] =
      .ok ⟨3, #[0, 2, 4, 6], #[1, 2, 0, 2, 0, 1], #[2, 2, 2]⟩ := by cbv
  have patternMade : Graph.ofEdges [(0, 1)] = .ok ⟨1, #[0, 1, 2], #[1, 0], #[1, 1]⟩ := by cbv
  have ordered : VisitOrder.ofPattern ⟨1, #[0, 1, 2], #[1, 0], #[1, 1]⟩ =
      .ok ⟨#[0, 1], #[1, 1], #[[], [0]], #[[], []]⟩ := by cbv
  have rooted : roots ⟨⟨3, #[0, 2, 4, 6], #[1, 2, 0, 2, 0, 1], #[2, 2, 2]⟩,
      ⟨#[0, 1], #[1, 1], #[[], [0]], #[[], []]⟩, .induced⟩ = .ok [0, 1, 2] := by cbv
  have one : (triangles ⟨3, #[0, 2, 4, 6], #[1, 2, 0, 2, 0, 1], #[2, 2, 2]⟩).card < sizeLimit := by
    decide +kernel
  have checked : check ⟨.induced, false, 1⟩
      ⟨3, #[0, 2, 4, 6], #[1, 2, 0, 2, 0, 1], #[2, 2, 2]⟩ ⟨1, #[0, 1, 2], #[1, 0], #[1, 1]⟩ =
      .ok 1 := rfl
  obtain ⟨-, -, built⟩ := faults_only_outside
  obtain ⟨-, -, -, ranked, matched, asked⟩ := built _ (.ofEdges made)
  obtain ⟨ranking, counted⟩ := ranked ⟨true, false, false⟩ ⟨.total, true, 1⟩ fun _ => one
  obtain ⟨-, answered⟩ := matched _ (.ofEdges patternMade) ⟨.induced, false, 1⟩
  obtain ⟨⟨found, run⟩, steps⟩ := answered 1 checked
  obtain ⟨next, stepped⟩ := steps _ ordered (.waiting 2 0 (.start _))
    (.first rooted List.mem_cons_self) ⟨some 1⟩
  refine ⟨_, _, _, ranking, found, next, made, patternMade, one, counted, checked, ordered, run,
    stepped.held .unlimited trivial, rfl, ?_, ?_, ?_, ?_⟩
  · rw [(asked 2 0).1]
    decide
  · rw [(asked 3 0).1]
    decide
  · rw [(asked (-1) 0).2.1]
    decide
  · rw [(asked 0 (-1)).2.2]
    decide

end Motif
