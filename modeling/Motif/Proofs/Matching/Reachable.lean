import Motif.Proofs.Graph.Constructed
import Motif.Proofs.Matching.Search

/-!
# What a search passes through

A search is started once and started over from one root after the other, wherever the last run was
left. All states on the way are coherent, so the candidates asked for are always the vertices that
may follow the images so far, and no embedding with these images is lost.
-/

set_option autoImplicit false

namespace Motif.Matching

namespace Search

/-- The states of a search, turn by turn. A run may be left after any turn. -/
inductive Reachable (p : Problem) : Search → Prop
  | start : Reachable p (.start p.target)
  | restart {s s' : Search} {root : Nat} : Reachable p s → root < p.target.vertexCount →
      s.restart root = .ok s' → Reachable p s'
  | again {s s' : Search} : Reachable p s → s.turn p = .ok (.again s') → Reachable p s'
  | found {s s' : Search} {row : Array Nat} : Reachable p s → s.turn p = .ok (.found row s') →
      Reachable p s'

variable {p : Problem} {s s' : Search}

/-- A run may be left after any answer, and after the end. -/
theorem Reachable.next (h : s.Reachable p) {row? : Option (Array Nat)}
    (answered : s.next p = .ok (row?, s')) : s'.Reachable p := by
  fun_induction Search.next p s with
  | case1 s e failed => cases answered
  | case2 s t turned =>
    cases answered
    rw [weight_lt_of_turn turned]
    exact h
  | case3 s row t turned =>
    cases answered
    exact h.found turned
  | case4 s t turned ih => exact ih (h.again turned) answered

theorem Reachable.coherent {pattern : Graph} (target : p.target.WellFormed)
    (visits : p.order.Visits pattern) (room : 0 < p.order.size) (h : s.Reachable p) :
    s.Coherent p := by
  induction h with
  | start => exact coherent_start
  | restart _ inside restarted coherent =>
    obtain ⟨t, restarted', coherent', -⟩ := restart_spec coherent inside room
    rw [restarted, Except.ok.injEq] at restarted'
    exact restarted' ▸ coherent'
  | again _ turned coherent => exact (sound_of_turn target visits coherent turned).1
  | found _ turned coherent => exact (sound_of_turn target visits coherent turned).1

/-- A turn that goes deeper has asked for the candidates behind the images it leaves. -/
theorem fill_of_turn (turned : s.turn p = .ok (.again s'))
    (deeper : s.frames.length < s'.frames.length) :
    ∃ recycled inner, s'.fill p recycled = .ok inner ∧ s'.frames.head? = some inner := by
  unfold turn at turned
  split at turned
  case h_1 => cases turned
  case h_2 frame outer frames =>
    obtain ⟨r, -, turned⟩ := bind_eq_ok.mp turned
    split at turned
    case h_1 =>
      cases turned
      rw [frames, List.length_cons] at deeper
      exact absurd deeper (Nat.not_lt.mpr (Nat.le_succ _))
    case h_2 v _ =>
      obtain ⟨used, -, turned⟩ := bind_eq_ok.mp turned
      split at turned
      case isTrue =>
        obtain ⟨inner, filled, turned⟩ := bind_eq_ok.mp turned
        cases turned
        exact ⟨_, inner, filled, rfl⟩
      case isFalse =>
        obtain ⟨row, -, turned⟩ := bind_eq_ok.mp turned
        cases turned

end Search

section Extension

variable {p : Problem} {pattern : Graph} (visits : p.order.Visits pattern)
  (source : pattern.WellFormed)
include visits source

/-- An embedding that maps the vertices before some depth as given maps that of the depth to a
candidate. -/
theorem exists_mem_candidateList {images : List Nat} {v : Nat} {row : Array Nat}
    (hv : p.order.order[images.length]? = some v)
    (h : IsEmbedding p.kind p.target pattern row)
    (extending : ∀ j u x : Nat, p.order.order[j]? = some u → images[j]? = some x →
      row[u]? = some x) :
    ∃ w ∈ candidateList p images, row[v]? = some w := by
  have size := size_order visits.permutes
  have depth : images.length < pattern.vertexCount := size ▸ (Array.getElem?_eq_some_iff.mp hv).1
  obtain ⟨full, length, rfl⟩ := exists_arrange visits.permutes h.size
  have column {j u : Nat} (hu : p.order.order[j]? = some u) :
      (arrange p.order.order full)[u]? = full[j]? := getElem?_arrange visits.permutes length hu
  have front : full.take images.length = images := by
    apply List.ext_getElem
    · rw [List.length_take]
      omega
    · intro j hj hj'
      have hu := Array.getElem?_eq_getElem (show j < p.order.order.size by omega)
      have same := (column hu).symm.trans
        (extending j _ _ hu (List.getElem?_eq_getElem hj'))
      rw [List.getElem_take]
      exact (List.getElem?_eq_some_iff.mp same).2
  have image := List.getElem?_eq_getElem (show images.length < full.length by omega)
  have candidate := admissible_of_isEmbedding visits source length h _ _ image
  rw [front] at candidate
  exact ⟨_, candidate, (column hv).trans image⟩

end Extension

open Search

/-- Behind the images of any reachable search, a frame is filled with all target vertices, in
ascending order, whose degree is high enough, which are no image yet, and which are joined to the
images as the earlier neighbors ask for and, for an induced embedding, the other earlier vertices.
Neither what was in the frame before nor the image in whose row they are looked for makes a
difference; these are the frames that a search pushes; and no embedding with these images is lost. -/
theorem fill_filters_vertices {target pattern : Graph} (targetMade : target.Constructed)
    (patternMade : pattern.Constructed) (kind : Kind) :
    ∃ o, VisitOrder.ofPattern pattern = .ok o ∧
      ∀ s : Search, s.Reachable ⟨target, o, kind⟩ →
      ∀ v, o.order[s.images.size]? = some v →
        ∃ neighbors strangers candidates : List Nat,
          o.earlierNeighbors[s.images.size]? = some neighbors ∧
          o.earlierStrangers[s.images.size]? = some strangers ∧
          (∀ j, j ∈ neighbors ↔
            j < s.images.size ∧ ∃ u, o.order[j]? = some u ∧ pattern.Adj u v) ∧
          (∀ j, j ∈ strangers ↔
            j < s.images.size ∧ ∃ u, o.order[j]? = some u ∧ ¬ pattern.Adj u v) ∧
          candidates.Pairwise (· < ·) ∧
          (∀ w, w ∈ candidates ↔ w < target.vertexCount ∧
            (pattern.neighborList v).length ≤ (target.neighborList w).length ∧
            w ∉ s.images ∧
            (∀ j ∈ neighbors, ∀ x, s.images[j]? = some x → target.Adj x w) ∧
            (kind = .induced →
              ∀ j ∈ strangers, ∀ x, s.images[j]? = some x → ¬ target.Adj x w)) ∧
          (∀ frame, s.fill ⟨target, o, kind⟩ frame = .ok ⟨candidates.toArray, 0⟩) ∧
          (∃ base?, s.shortest ⟨target, o, kind⟩ neighbors = .ok base? ∧
            s.candidates ⟨target, o, kind⟩ = s.candidatesFrom ⟨target, o, kind⟩ base?) ∧
          (∀ base ∈ neighbors,
            s.candidatesFrom ⟨target, o, kind⟩ (some base) = .ok candidates) ∧
          (∀ earlier : Search, earlier.turn ⟨target, o, kind⟩ = .ok (.again s) →
            earlier.frames.length < s.frames.length →
            s.frames.head? = some ⟨candidates.toArray, 0⟩) ∧
          ∀ row, IsEmbedding kind target pattern row →
            (∀ j u x : Nat, o.order[j]? = some u → s.images[j]? = some x → row[u]? = some x) →
            ∃ w ∈ candidates, row[v]? = some w := by
  have targetFits := targetMade.wellFormed
  have patternFits := patternMade.wellFormed
  obtain ⟨o, ordered, visits⟩ := VisitOrder.ofPattern_spec patternFits
  refine ⟨o, ordered, fun s reachable v hv => ?_⟩
  have depth : s.images.size < o.size := (Array.getElem?_eq_some_iff.mp hv).1
  have coherent := reachable.coherent (p := ⟨target, o, kind⟩) targetFits visits
    (Nat.zero_lt_of_lt depth)
  have filled (frame : Frame) : s.fill ⟨target, o, kind⟩ frame =
      .ok ⟨(candidateList ⟨target, o, kind⟩ s.images.toList).toArray, 0⟩ := by
    rw [fill, candidates_eq (p := ⟨target, o, kind⟩) targetFits coherent.marked visits depth]
    simp [Frame.refill]
  have meaning := extends_iff (p := ⟨target, o, kind⟩) visits
    (show o.order[s.images.toList.length]? = some v from hv)
  refine ⟨_, _, candidateList ⟨target, o, kind⟩ s.images.toList, visits.neighbors _ v hv,
    visits.strangers _ v hv, fun j => VisitOrder.mem_joined, fun j => VisitOrder.mem_apart,
    List.pairwise_lt_range.filter _, ?_, filled, ?_, ?_, ?_, ?_⟩
  · intro w
    rw [mem_candidateList, meaning]
    simp only [Option.mem_def, Array.getElem?_toList, Array.length_toList, Array.mem_toList_iff]
    tauto
  · rcases shortest_spec (p := ⟨target, o, kind⟩) targetFits coherent.marked
      (fun j hj => (VisitOrder.mem_joined.mp hj).1) with ⟨-, found⟩ | ⟨base, -, found⟩
    · exact ⟨_, found, candidates_eq_candidatesFrom (visits.neighbors _ v hv) found⟩
    · exact ⟨_, found, candidates_eq_candidatesFrom (visits.neighbors _ v hv) found⟩
  · intro base hbase
    refine candidatesFrom_eq (p := ⟨target, o, kind⟩) targetFits coherent.marked visits hv ?_
      fun none => absurd none (Option.some_ne_none base)
    rintro _ ⟨⟩
    exact hbase
  · intro earlier turned deeper
    obtain ⟨recycled, inner, asked, pushed⟩ := fill_of_turn turned deeper
    rw [filled, Except.ok.injEq] at asked
    rw [pushed, asked]
  · intro row embedded extending
    exact exists_mem_candidateList (p := ⟨target, o, kind⟩) visits patternFits hv embedded
      (fun j u x hu hx => extending j u x hu (by simpa using hx))

/-- A path of three vertices in a triangle with a tail, with its middle vertex at the corner and one
end mapped: only the end of the tail may follow. -/
theorem fill_filters_vertices_path : ∃ (target pattern : Graph) (o : VisitOrder) (s : Search)
    (candidates : List Nat),
    Graph.ofEdges [(0, 1), (1, 2), (2, 0), (2, 3)] = .ok target ∧
      Graph.ofEdges [(0, 1), (1, 2)] = .ok pattern ∧ VisitOrder.ofPattern pattern = .ok o ∧
      s.Reachable ⟨target, o, .induced⟩ ∧ s.images = #[2, 0] ∧ candidates = [3] ∧
      s.fill ⟨target, o, .induced⟩ ⟨#[1, 2], 1⟩ = .ok ⟨candidates.toArray, 0⟩ ∧
      ∀ row, IsEmbedding .induced target pattern row → row[1]? = some 2 → row[0]? = some 0 →
        row[2]? = some 3 := by
  have target : Graph.ofEdges [(0, 1), (1, 2), (2, 0), (2, 3)] =
      .ok ⟨4, #[0, 2, 4, 7, 8], #[1, 2, 0, 2, 0, 1, 3, 2], #[2, 2, 3, 1]⟩ := by cbv
  have pattern : Graph.ofEdges [(0, 1), (1, 2)] =
      .ok ⟨2, #[0, 1, 3, 4], #[1, 0, 2, 1], #[1, 2, 1]⟩ := by cbv
  have order : VisitOrder.ofPattern ⟨2, #[0, 1, 3, 4], #[1, 0, 2, 1], #[1, 2, 1]⟩ =
      .ok ⟨#[1, 0, 2], #[2, 1, 1], #[[], [0], [0]], #[[], [], [1]]⟩ := by cbv
  obtain ⟨o, ordered, fills⟩ := fill_filters_vertices (.ofEdges target) (.ofEdges pattern) .induced
  rw [order, Except.ok.injEq] at ordered
  subst ordered
  have begun : (Search.start ⟨4, #[0, 2, 4, 7, 8], #[1, 2, 0, 2, 0, 1, 3, 2], #[2, 2, 3, 1]⟩).restart 2 =
      .ok ⟨#[], #[false, false, false, false], [⟨#[2], 0⟩], []⟩ := by cbv
  have first : turn ⟨⟨4, #[0, 2, 4, 7, 8], #[1, 2, 0, 2, 0, 1, 3, 2], #[2, 2, 3, 1]⟩,
      ⟨#[1, 0, 2], #[2, 1, 1], #[[], [0], [0]], #[[], [], [1]]⟩, .induced⟩
      ⟨#[], #[false, false, false, false], [⟨#[2], 0⟩], []⟩ =
      .ok (.again ⟨#[2], #[false, false, true, false], [⟨#[0, 1, 3], 0⟩, ⟨#[2], 1⟩], []⟩) := by cbv
  have second : turn ⟨⟨4, #[0, 2, 4, 7, 8], #[1, 2, 0, 2, 0, 1, 3, 2], #[2, 2, 3, 1]⟩,
      ⟨#[1, 0, 2], #[2, 1, 1], #[[], [0], [0]], #[[], [], [1]]⟩, .induced⟩
      ⟨#[2], #[false, false, true, false], [⟨#[0, 1, 3], 0⟩, ⟨#[2], 1⟩], []⟩ =
      .ok (.again ⟨#[2, 0], #[true, false, true, false],
        [⟨#[3], 0⟩, ⟨#[0, 1, 3], 1⟩, ⟨#[2], 1⟩], []⟩) := by cbv
  have reachable := ((Search.Reachable.start.restart (by decide) begun).again first).again second
  obtain ⟨_, _, candidates, -, -, -, -, -, -, filled, -, -, pushed, kept⟩ :=
    fills _ reachable 2 rfl
  have list : candidates = [3] := by
    have := pushed _ second (by decide)
    simpa using this.symm
  refine ⟨_, _, _, _, candidates, target, pattern, order, reachable, rfl, list, filled _, ?_⟩
  intro row embedded middle left
  obtain ⟨w, hw, image⟩ := kept row embedded fun j u x hu hx => by
    rcases j with _ | _ | j
    · obtain rfl : 1 = u := by simpa using hu
      obtain rfl : 2 = x := by simpa using hx
      exact middle
    · obtain rfl : 0 = u := by simpa using hu
      obtain rfl : 0 = x := by simpa using hx
      exact left
    · simp at hx
  rw [list, List.mem_singleton] at hw
  rw [image, hw]

end Motif.Matching
