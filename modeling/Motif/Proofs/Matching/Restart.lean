import Motif.Proofs.Matching.Ordered
import Motif.Proofs.Matching.Reachable

/-!
# Starting over

A search that is started over from a root finds what a fresh one would, whatever it was left in the
middle of: the embeddings below the root, in order, and then nothing more. At the end it has given
back everything, so the next root finds it as it was at first.
-/

set_option autoImplicit false

namespace Motif.Matching

namespace Search

/-- Asks for embeddings until there is none left. -/
def drain (p : Problem) (s : Search) : Except Error (List (Array Nat) × Search) :=
  match _h : s.next p with
  | .error e => .error e
  | .ok (none, s') => .ok ([], s')
  | .ok (some row, s') => do
    let (rows, ended) ← drain p s'
    return (row :: rows, ended)
termination_by s.weight p
decreasing_by exact weight_lt_of_next _h

variable {p : Problem} {s s' : Search}

theorem drain_of_next {row? : Option (Array Nat)} (h : s.next p = .ok (row?, s')) :
    s.drain p = match row? with
      | none => .ok ([], s')
      | some row => do
        let (rows, ended) ← s'.drain p
        return (row :: rows, ended) := by
  rw [drain]
  split
  case h_1 e failed =>
    rw [h] at failed
    cases failed
  case h_2 t found =>
    rw [h] at found
    cases found
    rfl
  case h_3 row t found =>
    rw [h] at found
    cases found
    rfl

/-- A search that has come to its end: no image, no frame and no mark is left. -/
structure Ended (target : Graph) (s : Search) : Prop where
  images : s.images = #[]
  frames : s.frames = []
  used : s.used = Array.replicate target.vertexCount false

theorem frames_of_turn_exhausted (turned : s.turn p = .ok (.exhausted s')) : s'.frames = [] := by
  rw [weight_lt_of_turn turned]
  unfold turn at turned
  split at turned
  case h_1 frames => exact frames
  case h_2 frame outer frames =>
    obtain ⟨r, -, turned⟩ := bind_eq_ok.mp turned
    split at turned
    case h_1 => cases turned
    case h_2 v _ =>
      obtain ⟨used, -, turned⟩ := bind_eq_ok.mp turned
      split at turned
      case isTrue =>
        obtain ⟨inner, -, turned⟩ := bind_eq_ok.mp turned
        cases turned
      case isFalse =>
        obtain ⟨row, -, turned⟩ := bind_eq_ok.mp turned
        cases turned

theorem frames_of_next_none (h : s.next p = .ok (none, s')) : s'.frames = [] := by
  fun_induction Search.next p s with
  | case1 s e failed => cases h
  | case2 s t turned =>
    cases h
    exact frames_of_turn_exhausted turned
  | case3 s row t turned => cases h
  | case4 s t turned ih => exact ih h

/-- Once a search has come to its end, it stays there. -/
theorem next_of_frames_eq_nil (frames : s.frames = []) : s.next p = .ok (none, s) := by
  have turned : s.turn p = .ok (.exhausted s) := by
    unfold turn
    rw [frames]
  rw [Search.next]
  split
  case h_1 e failed =>
    rw [turned] at failed
    cases failed
  case h_2 t found =>
    rw [turned] at found
    cases found
    rfl
  case h_3 row t found =>
    rw [turned] at found
    cases found
  case h_4 t found =>
    rw [turned] at found
    cases found

/-- A coherent search without frames has given everything back. -/
theorem Coherent.ended (h : s.Coherent p) (frames : s.frames = []) : s.Ended p.target := by
  have images : s.images = #[] := by
    have mapped := h.mapped
    rw [frames] at mapped
    exact Array.eq_empty_of_size_eq_zero (Nat.le_zero.mp mapped)
  have marks := h.marked
  rw [Marked, images] at marks
  exact ⟨images, frames, marks.eq_replicate⟩

section Drain

variable {pattern : Graph} (target : p.target.WellFormed) (visits : p.order.Visits pattern)
include target visits

/-- Asking until there is none left gives what remains, and ends. -/
theorem drain_spec (h : s.Coherent p) :
    ∃ ended, s.drain p = .ok ((s.remaining p).map (arrange p.order.order), ended) ∧
      ended.Ended p.target := by
  generalize todo : s.remaining p = images
  induction images generalizing s with
  | nil =>
    rcases s.next_spec target visits h with ⟨-, s', found, coherent⟩ | ⟨_, _, some, -⟩
    · exact ⟨s', drain_of_next found, coherent.ended (frames_of_next_none found)⟩
    · rw [todo] at some
      cases some
  | cons image images ih =>
    rcases s.next_spec target visits h with ⟨none, -⟩ | ⟨image', s', some, coherent, found⟩
    · rw [todo] at none
      cases none
    · rw [todo, List.cons.injEq] at some
      obtain ⟨rfl, rest⟩ := some
      obtain ⟨ended, drained, atEnd⟩ := ih coherent rest.symm
      refine ⟨ended, ?_, atEnd⟩
      rw [drain_of_next found]
      dsimp only
      rw [drained]
      rfl

/-- A search that is started over finds all rows below the root. -/
theorem drain_restart (h : s.Coherent p) {root : Nat} (inside : root < p.target.vertexCount)
    (room : 0 < p.order.size) :
    ∃ begun ended, s.restart root = .ok begun ∧
      begun.drain p =
        .ok ((extensions p (p.order.size - 1) [root]).map (arrange p.order.order), ended) ∧
      ended.Ended p.target := by
  obtain ⟨begun, restarted, coherent, remaining⟩ := restart_spec h inside room
  obtain ⟨ended, drained, atEnd⟩ := drain_spec target visits coherent
  rw [remaining] at drained
  exact ⟨begun, ended, restarted, drained, atEnd⟩

end Drain

end Search

open Search

/-- Every question to a search is answered. Wherever the search has been left, when it is started over
from any target vertex and asked until there is none left, it gives the embeddings that map the
first visited vertex of the pattern to this root, each once and in order, just as a fresh search does;
from then on there is none, and no image, no frame and no mark is left. -/
theorem restart_finds_root {target pattern : Graph} (targetMade : target.Constructed)
    (patternMade : pattern.Constructed) (kind : Kind) :
    ∃ o, VisitOrder.ofPattern pattern = .ok o ∧ ∀ first, o.order[0]? = some first →
      ∀ s : Search, s.Reachable ⟨target, o, kind⟩ →
        (∃ answer, s.next ⟨target, o, kind⟩ = .ok answer) ∧
        ∀ root < target.vertexCount, ∃ begun fresh rows ended ended',
          s.restart root = .ok begun ∧ begun.drain ⟨target, o, kind⟩ = .ok (rows, ended) ∧
          (Search.start target).restart root = .ok fresh ∧
          fresh.drain ⟨target, o, kind⟩ = .ok (rows, ended') ∧
          (∀ row, row ∈ rows ↔ IsEmbedding kind target pattern row ∧ row[first]? = some root) ∧
          rows.Nodup ∧ rows.Pairwise o.GoesBefore ∧
          ended.next ⟨target, o, kind⟩ = .ok (none, ended) ∧
          ended.images = #[] ∧ ended.frames = [] ∧
          ended.used = Array.replicate target.vertexCount false := by
  have targetFits := targetMade.wellFormed
  have patternFits := patternMade.wellFormed
  obtain ⟨o, ordered, visits⟩ := VisitOrder.ofPattern_spec patternFits
  refine ⟨o, ordered, fun first visited s reachable => ?_⟩
  have room : 0 < o.size := (Array.getElem?_eq_some_iff.mp visited).1
  have whole : [0].length + (o.size - 1) = pattern.vertexCount := by
    rw [← size_order visits.permutes, List.length_singleton]
    exact Nat.add_sub_cancel' room
  have coherent := reachable.coherent (p := ⟨target, o, kind⟩) targetFits visits room
  constructor
  · rcases next_spec (p := ⟨target, o, kind⟩) targetFits visits coherent with
      ⟨-, s', found, -⟩ | ⟨_, s', -, -, found⟩
    · exact ⟨_, found⟩
    · exact ⟨_, found⟩
  · intro root inside
    obtain ⟨begun, ended, restarted, drained, atEnd⟩ :=
      drain_restart (p := ⟨target, o, kind⟩) targetFits visits coherent inside room
    obtain ⟨fresh, ended', restarted', drained', -⟩ :=
      drain_restart (p := ⟨target, o, kind⟩) targetFits visits coherent_start inside room
    refine ⟨begun, fresh, _, ended, ended', restarted, drained, restarted', drained', ?_, ?_, ?_,
      next_of_frames_eq_nil atEnd.frames, atEnd.images, atEnd.frames, atEnd.used⟩
    · exact mem_map_arrange_root (p := ⟨target, o, kind⟩) visits targetFits patternFits inside visited
    · exact nodup_map_arrange_below (p := ⟨target, o, kind⟩) visits whole
    · exact pairwise_rows_below visits kind whole

/-- The ends of a path of three vertices in a star, looked for again after the first was found. -/
theorem restart_finds_root_star : ∃ (target pattern : Graph) (o : VisitOrder)
    (s begun ended : Search),
    Graph.ofEdges [(0, 1), (0, 2), (0, 3)] = .ok target ∧
      Graph.ofEdges [(0, 1), (0, 2)] = .ok pattern ∧ VisitOrder.ofPattern pattern = .ok o ∧
      s.Reachable ⟨target, o, .induced⟩ ∧ s.images = #[0, 1, 2] ∧ s.restart 0 = .ok begun ∧
      begun.drain ⟨target, o, .induced⟩ =
        .ok ([#[0, 1, 2], #[0, 1, 3], #[0, 2, 1], #[0, 2, 3], #[0, 3, 1], #[0, 3, 2]], ended) ∧
      ended.next ⟨target, o, .induced⟩ = .ok (none, ended) ∧
      ended.used = #[false, false, false, false] := by
  have target : Graph.ofEdges [(0, 1), (0, 2), (0, 3)] =
      .ok ⟨3, #[0, 3, 4, 5, 6], #[1, 2, 3, 0, 0, 0], #[3, 1, 1, 1]⟩ := by cbv
  have pattern : Graph.ofEdges [(0, 1), (0, 2)] =
      .ok ⟨2, #[0, 2, 3, 4], #[1, 2, 0, 0], #[2, 1, 1]⟩ := by cbv
  have order : VisitOrder.ofPattern ⟨2, #[0, 2, 3, 4], #[1, 2, 0, 0], #[2, 1, 1]⟩ =
      .ok ⟨#[0, 1, 2], #[2, 1, 1], #[[], [0], [0]], #[[], [], [1]]⟩ := by cbv
  obtain ⟨o, ordered, restarts⟩ :=
    restart_finds_root (.ofEdges target) (.ofEdges pattern) .induced
  rw [order, Except.ok.injEq] at ordered
  subst ordered
  have begun : (Search.start ⟨3, #[0, 3, 4, 5, 6], #[1, 2, 3, 0, 0, 0], #[3, 1, 1, 1]⟩).restart 0 =
      .ok ⟨#[], #[false, false, false, false], [⟨#[0], 0⟩], []⟩ := by cbv
  have first : turn ⟨⟨3, #[0, 3, 4, 5, 6], #[1, 2, 3, 0, 0, 0], #[3, 1, 1, 1]⟩,
      ⟨#[0, 1, 2], #[2, 1, 1], #[[], [0], [0]], #[[], [], [1]]⟩, .induced⟩
      ⟨#[], #[false, false, false, false], [⟨#[0], 0⟩], []⟩ =
      .ok (.again ⟨#[0], #[true, false, false, false], [⟨#[1, 2, 3], 0⟩, ⟨#[0], 1⟩], []⟩) := by cbv
  have second : turn ⟨⟨3, #[0, 3, 4, 5, 6], #[1, 2, 3, 0, 0, 0], #[3, 1, 1, 1]⟩,
      ⟨#[0, 1, 2], #[2, 1, 1], #[[], [0], [0]], #[[], [], [1]]⟩, .induced⟩
      ⟨#[0], #[true, false, false, false], [⟨#[1, 2, 3], 0⟩, ⟨#[0], 1⟩], []⟩ =
      .ok (.again ⟨#[0, 1], #[true, true, false, false],
        [⟨#[2, 3], 0⟩, ⟨#[1, 2, 3], 1⟩, ⟨#[0], 1⟩], []⟩) := by cbv
  have third : turn ⟨⟨3, #[0, 3, 4, 5, 6], #[1, 2, 3, 0, 0, 0], #[3, 1, 1, 1]⟩,
      ⟨#[0, 1, 2], #[2, 1, 1], #[[], [0], [0]], #[[], [], [1]]⟩, .induced⟩
      ⟨#[0, 1], #[true, true, false, false], [⟨#[2, 3], 0⟩, ⟨#[1, 2, 3], 1⟩, ⟨#[0], 1⟩], []⟩ =
      .ok (.found #[0, 1, 2] ⟨#[0, 1, 2], #[true, true, true, false],
        [⟨#[2, 3], 1⟩, ⟨#[1, 2, 3], 1⟩, ⟨#[0], 1⟩], []⟩) := by cbv
  have reachable :=
    (((Search.Reachable.start.restart (by decide) begun).again first).again second).found third
  obtain ⟨begun', fresh, rows, ended, ended', restarted, drained, restarted', drained', -, -, -,
    nothing, -, -, used⟩ := (restarts 0 rfl _ reachable).2 0 (by decide)
  -- the leaves below the root are few enough to be listed
  obtain ⟨o, ordered, visits⟩ :=
    VisitOrder.ofPattern_spec (Graph.Constructed.ofEdges pattern).wellFormed
  rw [order, Except.ok.injEq] at ordered
  subst ordered
  obtain ⟨fresh', ended'', restarted'', drained'', -⟩ := drain_restart
    (p := ⟨⟨3, #[0, 3, 4, 5, 6], #[1, 2, 3, 0, 0, 0], #[3, 1, 1, 1]⟩,
      ⟨#[0, 1, 2], #[2, 1, 1], #[[], [0], [0]], #[[], [], [1]]⟩, .induced⟩)
    (Graph.Constructed.ofEdges target).wellFormed visits coherent_start
    (show 0 < 4 by decide) (by decide)
  rw [restarted', Except.ok.injEq] at restarted''
  subst restarted''
  rw [drained', Except.ok.injEq, Prod.mk.injEq] at drained''
  have list : rows =
      [#[0, 1, 2], #[0, 1, 3], #[0, 2, 1], #[0, 2, 3], #[0, 3, 1], #[0, 3, 2]] := by
    rw [drained''.1]
    decide +kernel
  subst list
  exact ⟨_, _, _, _, begun', ended, target, pattern, order, reachable, rfl, restarted, drained,
    nothing, used⟩

end Motif.Matching
