import Motif.Proofs.Matching.Embedding

/-!
# The search goes through the tree

What a search has still to find is written on its stack: below each frame the subtrees of the
candidates not yet taken. A turn opens a subtree, drops an empty one, or finds its first leaf; the
marks are always those of the images, so what is given back on the way is free again.
-/

set_option autoImplicit false

namespace Motif.Matching

/-- The candidates that have not been taken. -/
def Frame.rest (f : Frame) : List Nat := f.candidates.toList.drop f.taken

@[simp] theorem Frame.rest_refill (f : Frame) (candidates : List Nat) :
    (f.refill candidates).rest = candidates := by
  simp [Frame.refill, Frame.rest]

theorem Frame.rest_of_current?_eq_none {f : Frame} (h : f.current? = none) : f.rest = [] := by
  rw [Frame.rest, List.drop_eq_nil_iff]
  simpa [Frame.current?] using h

theorem Frame.rest_of_current? {f : Frame} {v : Nat} (h : f.current? = some v) :
    f.rest = v :: f.advance.rest := by
  obtain ⟨hlt, rfl⟩ := Array.getElem?_eq_some_iff.mp h
  exact List.drop_eq_getElem_cons (by simpa using hlt)

/-- The leaves that a stack of frames has still to reach, the innermost frame first. -/
def pending (p : Problem) (images : List Nat) : List Frame → List (List Nat)
  | [] => []
  | f :: outer =>
    (f.rest.flatMap fun w => extensions p (p.order.size - (outer.length + 1))
      (images.take outer.length ++ [w])) ++ pending p images outer

/-- The candidates on a stack are vertices that are no images of the depths before them. -/
def Fresh (target : Graph) (images : List Nat) : List Frame → Prop
  | [] => True
  | f :: outer =>
    (∀ w ∈ f.rest, w < target.vertexCount ∧ w ∉ images.take outer.length) ∧
      Fresh target images outer

theorem take_congr {images images' : List Nat} {k m : Nat} (same : images.take k = images'.take k)
    (h : m ≤ k) : images.take m = images'.take m := by
  rw [← Nat.min_eq_left h, ← List.take_take, same, List.take_take]

/-- Only the images below the innermost frame matter. -/
theorem pending_congr {p : Problem} {images images' : List Nat} {k : Nat}
    (same : images.take k = images'.take k) {frames : List Frame} (hk : frames.length ≤ k + 1) :
    pending p images frames = pending p images' frames := by
  induction frames with
  | nil => rfl
  | cons f outer ih =>
    rw [List.length_cons] at hk
    rw [pending, pending, take_congr same (Nat.le_of_succ_le_succ hk), ih (by omega)]

theorem fresh_congr {target : Graph} {images images' : List Nat} {k : Nat}
    (same : images.take k = images'.take k) {frames : List Frame} (hk : frames.length ≤ k + 1)
    (h : Fresh target images frames) : Fresh target images' frames := by
  induction frames with
  | nil => trivial
  | cons f outer ih =>
    rw [List.length_cons] at hk
    exact ⟨take_congr same (Nat.le_of_succ_le_succ hk) ▸ h.1, ih (by omega) h.2⟩

namespace Search

/-- What the search has still to find, in the order in which it will. -/
def remaining (p : Problem) (s : Search) : List (List Nat) := pending p s.images.toList s.frames

/-- A search that runs: the stack holds a frame for each image, and at most one more. -/
structure Coherent (p : Problem) (s : Search) : Prop where
  marked : s.Marked p.target
  depth : s.frames.length ≤ s.images.size + 1
  mapped : s.images.size ≤ s.frames.length
  room : s.frames.length ≤ p.order.size
  fresh : Fresh p.target s.images.toList s.frames

def Turn.Sound (p : Problem) (s : Search) : Turn → Prop
  | .exhausted s' => s' = s ∧ s.remaining p = []
  | .again s' => s'.Coherent p ∧ s'.remaining p = s.remaining p
  | .found row s' => s'.Coherent p ∧ ∃ images, row = arrange p.order.order images ∧
      s.remaining p = images :: s'.remaining p

section Steps

variable {p : Problem} {s : Search} {pattern : Graph} (target : p.target.WellFormed)
  (visits : p.order.Visits pattern)

include visits in
/-- The row of a search that has mapped every depth. -/
theorem row_eq (whole : s.images.size = p.order.size) :
    s.row p = .ok (arrange p.order.order s.images.toList) := by
  have permutes := visits.permutes
  have size : p.order.order.size = pattern.vertexCount := size_order permutes
  have whole : s.images.size = p.order.order.size := whole
  have read : s.row p = (s.images.toList.zipIdx.map fun image =>
      (p.order.order[image.2]?.getD 0, image.1)).foldlM (fun row q => write row q.1 q.2)
      (Array.replicate s.images.size 0) := by
    rw [Search.row, List.foldlM_map]
    refine foldlM_congr (fun image himage row => ?_) _
    have hk : image.2 < p.order.order.size := by
      rw [← whole, ← Array.length_toList]
      simpa using (List.mem_zipIdx' himage).1
    rw [read_of_lt hk, ok_bind, Array.getElem?_eq_getElem hk]
    rfl
  have columns : (s.images.toList.zipIdx.map fun image =>
      (p.order.order[image.2]?.getD 0, image.1)).map (·.1) = p.order.order.toList := by
    apply List.ext_getElem
    · simp [whole]
    · intro k hk hk'
      have hk' : k < p.order.order.size := by simpa using hk'
      simp [hk']
  obtain ⟨row, run, rowSize, written, -⟩ := writes_spec (Array.replicate s.images.size 0)
    (by rw [columns]; exact nodup_order permutes)
    (by
      intro q hq
      have hmem : q.1 ∈ p.order.order.toList := columns ▸ List.mem_map_of_mem hq
      rw [Array.size_replicate, whole, size]
      exact List.mem_range.mp (permutes.mem_iff.mp hmem))
  rw [read, run, Except.ok.injEq]
  apply Array.ext_getElem?
  intro v
  rcases Nat.lt_or_ge v pattern.vertexCount with hv | hv
  · obtain ⟨k, hk⟩ := exists_depth permutes hv
    have hk' : k < s.images.size := whole ▸ (Array.getElem?_eq_some_iff.mp hk).1
    rw [getElem?_arrange permutes (by rw [Array.length_toList, whole, size]) hk]
    have here := written (v, s.images[k]) (by
      refine List.mem_map.mpr ⟨(s.images[k], k), ?_, by rw [hk]; rfl⟩
      rw [List.mk_mem_zipIdx_iff_getElem?]
      simp [hk'])
    rw [here]
    simp [hk']
  · rw [Array.getElem?_eq_none (by rw [rowSize, Array.size_replicate, whole, size]; exact hv),
      Array.getElem?_eq_none (by rw [size_arrange, size]; exact hv)]

/-- Giving back the last image leaves those of the depths before the innermost frame. -/
theorem release_spec (h : s.Coherent p) {f : Frame} {outer : List Frame}
    (frames : s.frames = f :: outer) :
    ∃ s', s.release (outer.length + 1) = .ok s' ∧ s'.Marked p.target ∧
      s'.images.size = outer.length ∧ s'.images.toList = s.images.toList.take outer.length := by
  have depth := h.depth
  rw [frames, List.length_cons] at depth
  unfold release
  split
  case isTrue full =>
    have last : s.images.back? = some s.images[outer.length] := by simp [Array.back?, full]
    have front : s.images.pop.toList = s.images.toList.take outer.length := by
      rw [Array.toList_pop, List.dropLast_eq_take, Array.length_toList, full,
        Nat.add_sub_cancel]
    have split : s.images.toList = s.images.toList.take outer.length ++ [s.images[outer.length]] := by
      have inside : outer.length < s.images.toList.length := by simp [full]
      rw [← Array.getElem_toList inside, ← List.take_succ_eq_append_getElem inside,
        List.take_of_length_le (by rw [Array.length_toList, full])]
    have marks : Marks p.target.vertexCount s.used
        (s.images.toList.take outer.length ++ [s.images[outer.length]]) := split ▸ h.marked
    obtain ⟨used, cleared, marks'⟩ := marks.set_false (List.perm_append_singleton _ _)
    rw [last]
    dsimp only
    rw [cleared]
    refine ⟨_, rfl, ?_, by rw [Array.size_pop, full, Nat.add_sub_cancel], front⟩
    unfold Marked
    rw [front]
    exact marks'
  case isFalse notFull =>
    have mapped := h.mapped
    rw [frames, List.length_cons] at mapped
    have size : s.images.size = outer.length := by omega
    refine ⟨s, rfl, h.marked, size, ?_⟩
    rw [List.take_of_length_le (by rw [Array.length_toList, size])]

/-- A search whose innermost depth has no image yet. -/
structure Open (p : Problem) (s : Search) (f : Frame) (outer : List Frame) : Prop where
  marked : s.Marked p.target
  size : s.images.size = outer.length
  freshHere : ∀ w ∈ f.rest, w < p.target.vertexCount ∧ w ∉ s.images.toList
  freshOuter : Fresh p.target s.images.toList outer

/-- Giving back the last image changes nothing for the frames. -/
theorem release_open (h : s.Coherent p) {f : Frame} {outer : List Frame}
    (frames : s.frames = f :: outer) :
    ∃ s', s.release (outer.length + 1) = .ok s' ∧ s'.Open p f outer ∧
      s.remaining p = (f.rest.flatMap fun w =>
        extensions p (p.order.size - (outer.length + 1)) (s'.images.toList ++ [w])) ++
        pending p s'.images.toList outer := by
  obtain ⟨s', released, marked, size, front⟩ := release_spec h frames
  obtain ⟨freshHere, freshOuter⟩ : Fresh p.target s.images.toList (f :: outer) := frames ▸ h.fresh
  have same : s.images.toList.take outer.length = s'.images.toList.take outer.length := by
    rw [front, List.take_take, Nat.min_self]
  refine ⟨s', released, ⟨marked, size, front ▸ freshHere, ?_⟩, ?_⟩
  · exact fresh_congr same (Nat.le_succ _) freshOuter
  · rw [remaining, frames, pending, front, ← front, pending_congr same (Nat.le_succ _)]

/-- The next candidate becomes an image, and its subtree is split off from what is pending. -/
theorem Open.map {f : Frame} {outer : List Frame} (h : s.Open p f outer) {v : Nat}
    (current : f.current? = some v) :
    ∃ used, write s.used v true = .ok used ∧
      Marked p.target ⟨s.images.push v, used, f.advance :: outer, s.spare⟩ ∧
      Fresh p.target (s.images.push v).toList (f.advance :: outer) ∧
      (f.rest.flatMap fun w =>
        extensions p (p.order.size - (outer.length + 1)) (s.images.toList ++ [w])) ++
          pending p s.images.toList outer =
        extensions p (p.order.size - (outer.length + 1)) (s.images.push v).toList ++
          pending p (s.images.push v).toList (f.advance :: outer) := by
  have rest := Frame.rest_of_current? current
  obtain ⟨inside, unused⟩ := h.freshHere v (by rw [rest]; exact List.mem_cons_self)
  obtain ⟨used, marking, marks⟩ := Marks.set_true h.marked inside unused
  have size : s.images.toList.length = outer.length := h.size
  have front : (s.images.push v).toList.take outer.length = s.images.toList := by
    rw [Array.toList_push, ← size, List.take_left]
  have same : s.images.toList.take outer.length = (s.images.push v).toList.take outer.length := by
    rw [front, ← size, List.take_length]
  refine ⟨used, marking, ?_, ⟨fun w hw => ?_, fresh_congr same (Nat.le_succ _) h.freshOuter⟩, ?_⟩
  · unfold Marked
    rw [Array.toList_push]
    exact marks
  · rw [front]
    exact h.freshHere w (by rw [rest]; exact List.mem_cons_of_mem v hw)
  · rw [pending, front, ← pending_congr same (Nat.le_succ _), rest, List.flatMap_cons,
      List.append_assoc, Array.toList_push]

include target visits

theorem turn_sound (h : s.Coherent p) : ∃ t, s.turn p = .ok t ∧ t.Sound p s := by
  unfold turn
  split
  case h_1 frames => exact ⟨_, rfl, rfl, by rw [remaining, frames, pending]⟩
  case h_2 f outer frames =>
    -- the image of the innermost depth is given back before the next candidate is taken
    obtain ⟨r, released, unmapped, before⟩ := release_open h frames
    have room := h.room
    rw [frames, List.length_cons] at room
    have size := unmapped.size
    rw [released, ok_bind]
    cases current : f.current? with
    | none =>
      refine ⟨_, rfl, ⟨unmapped.marked, ?_, ?_, ?_, unmapped.freshOuter⟩, ?_⟩
      · exact Nat.le_succ_of_le (Nat.le_of_eq size.symm)
      · exact Nat.le_of_eq size
      · exact Nat.le_of_succ_le room
      · rw [before, Frame.rest_of_current?_eq_none current]
        rfl
    | some v =>
      obtain ⟨used, marking, marked, fresh, split⟩ := unmapped.map current
      have mappedSize : (r.images.push v).size = outer.length + 1 := by rw [Array.size_push, size]
      dsimp only
      rw [marking, ok_bind]
      -- above the last depth a frame opens the subtree, at the last depth it is the leaf itself
      by_cases deeper : outer.length + 1 < p.order.size
      · have room' : (Search.mk (r.images.push v) used (f.advance :: outer) r.spare).images.size <
            p.order.size := mappedSize.symm ▸ deeper
        rw [if_pos deeper, fill, candidates_eq target marked visits room', ok_bind]
        refine ⟨_, rfl, ⟨marked, ?_, ?_, deeper, ?_, fresh⟩, ?_⟩
        · exact Nat.succ_le_succ (Nat.le_of_eq mappedSize.symm)
        · exact Nat.le_succ_of_le (Nat.le_of_eq mappedSize)
        · intro w hw
          rw [Frame.rest_refill] at hw
          obtain ⟨inside, -, unused, -⟩ := mem_candidateList.mp hw
          exact ⟨inside, fun hmem => unused (List.mem_of_mem_take hmem)⟩
        · have levels : p.order.size - (outer.length + 1) =
              p.order.size - (outer.length + 1 + 1) + 1 := by omega
          rw [before, split, levels, extensions, remaining, pending, Frame.rest_refill,
            List.length_cons, List.take_of_length_le (by rw [Array.length_toList, mappedSize])]
      · have whole : outer.length + 1 = p.order.size := by omega
        have row := row_eq visits (show (Search.mk (r.images.push v) used (f.advance :: outer)
          r.spare).images.size = p.order.size from mappedSize.trans whole)
        rw [if_neg deeper, row]
        refine ⟨_, rfl, ⟨marked, ?_, ?_, Nat.le_of_eq whole, fresh⟩, _, rfl, ?_⟩
        · exact Nat.le_succ_of_le (Nat.le_of_eq mappedSize.symm)
        · exact Nat.le_of_eq mappedSize
        · rw [before, split, ← whole, Nat.sub_self]
          rfl

theorem sound_of_turn (h : s.Coherent p) {t : Turn} (turned : s.turn p = .ok t) : t.Sound p s := by
  obtain ⟨t', turned', sound⟩ := turn_sound target visits h
  rw [turned, Except.ok.injEq] at turned'
  exact turned' ▸ sound

/-- Asking for the next embedding gives the first of what remains, and leaves the others. -/
theorem next_spec (h : s.Coherent p) :
    (s.remaining p = [] ∧ ∃ s', s.next p = .ok (none, s') ∧ s'.Coherent p) ∨
      ∃ images s', s.remaining p = images :: s'.remaining p ∧ s'.Coherent p ∧
        s.next p = .ok (some (arrange p.order.order images), s') := by
  fun_induction next p s with
  | case1 s e failed =>
    obtain ⟨t, turned, -⟩ := turn_sound target visits h
    rw [failed] at turned
    cases turned
  | case2 s s' turned =>
    obtain ⟨rfl, none⟩ := sound_of_turn target visits h turned
    exact .inl ⟨none, s', rfl, h⟩
  | case3 s row s' turned =>
    obtain ⟨coherent, images, rfl, first⟩ := sound_of_turn target visits h turned
    exact .inr ⟨images, s', first, coherent, rfl⟩
  | case4 s s' turned ih =>
    obtain ⟨coherent, same⟩ := sound_of_turn target visits h turned
    rw [← same]
    exact ih coherent

omit target visits in
theorem coherent_start : (start p.target).Coherent p where
  marked := .empty _
  depth := Nat.zero_le _
  mapped := Nat.le_refl _
  room := Nat.zero_le _
  fresh := trivial

omit target visits in
/-- Wherever a search was left, it starts over from a root with nothing marked. -/
theorem restart_spec (h : s.Coherent p) {root : Nat} (inside : root < p.target.vertexCount)
    (room : 0 < p.order.size) :
    ∃ s', s.restart root = .ok s' ∧ s'.Coherent p ∧
      s'.remaining p = extensions p (p.order.size - 1) [root] := by
  obtain ⟨used, cleared, marks⟩ := Marks.clear h.marked
  refine ⟨⟨#[], used, [(takeSpare (s.frames ++ s.spare)).1.refill [root]],
    (takeSpare (s.frames ++ s.spare)).2⟩, by rw [restart, cleared]; rfl,
    ⟨marks, Nat.le_refl _, Nat.zero_le _, room, ?_⟩, ?_⟩
  · refine ⟨fun w hw => ?_, trivial⟩
    rw [Frame.rest_refill, List.mem_singleton] at hw
    exact ⟨hw ▸ inside, by simp⟩
  · simp [remaining, pending]

end Steps

end Search

end Motif.Matching
