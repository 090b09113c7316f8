import Motif.Proofs.EdgeList.Parse

/-!
# Texts behind one another

A text that ends with a line end leaves a blank line behind it, and there the next text begins. If a
carriage return comes before a line feed, the two make one line end of the whole text, and the blank line
that the second text began with is gone. Blank lines hold no edge, so in either case the whole text holds
what its parts hold.
-/

set_option autoImplicit false

namespace Motif.EdgeList

/-- Nothing stands behind the last line end. -/
def Finished (text : List Char) : Prop := ∀ c, text.getLast? = some c → isLineEnd c = true

section Lines

variable {c : Char} {s : List Char}

theorem Finished.tail (h : Finished (c :: s)) : Finished s := by
  intro d hd
  apply h d
  rw [List.getLast?_cons, hd]
  rfl

theorem Finished.ne_nil (h : Finished (c :: s)) (inner : isLineEnd c = false) : s ≠ [] := by
  rintro rfl
  cases inner.symm.trans (h c rfl)

theorem lines_return (notFeed : ∀ rest, s ≠ '\n' :: rest) : lines ('\r' :: s) = [] :: lines s := by
  rw [lines]
  exact notFeed

theorem lines_inner (inner : isLineEnd c = false) (s : List Char) :
    lines (c :: s) = (lines s).modifyHead (c :: ·) := by
  rw [lines]
  · rintro _ rfl
    cases inner
  · rintro rfl
    cases inner
  · rintro rfl
    cases inner

theorem exists_lines_return (t : List Char) :
    ∃ behind, lines ('\r' :: t) = [] :: behind ∧ (lines t = behind ∨ lines t = [] :: behind) := by
  by_cases feed : ∃ rest, t = '\n' :: rest
  · obtain ⟨rest, rfl⟩ := feed
    exact ⟨lines rest, rfl, .inr rfl⟩
  · have notFeed : ∀ rest, t ≠ '\n' :: rest := fun rest same => feed ⟨rest, same⟩
    exact ⟨lines t, lines_return notFeed, .inl rfl⟩

/-- The lines of a text go on behind those of a finished one, but for a first line that the last line end
takes in. -/
theorem exists_lines_append (finished : Finished s) (t : List Char) :
    ∃ front behind, lines s = front ++ [[]] ∧ (lines t = behind ∨ lines t = [] :: behind) ∧
      lines (s ++ t) = front ++ behind ∧ (s ≠ [] → front ≠ []) := by
  fun_induction lines s with
  | case1 => exact ⟨[], lines t, rfl, .inl rfl, rfl, by simp⟩
  | case2 s ih =>
    obtain ⟨front, behind, first, second, whole, -⟩ := ih finished.tail.tail
    exact ⟨[] :: front, behind, congrArg _ first, second, congrArg _ whole, by simp⟩
  | case3 s notFeed ih =>
    cases s with
    | nil =>
      obtain ⟨behind, whole, second⟩ := exists_lines_return t
      exact ⟨[[]], behind, rfl, second, whole, by simp⟩
    | cons d s =>
      have feedless : ∀ rest, d :: s ++ t ≠ '\n' :: rest := by
        rintro rest ⟨⟩
        exact notFeed s rfl
      obtain ⟨front, behind, first, second, whole, -⟩ := ih finished.tail
      refine ⟨[] :: front, behind, congrArg _ first, second, ?_, by simp⟩
      rw [List.cons_append, lines_return feedless, whole]
      rfl
  | case4 s ih =>
    obtain ⟨front, behind, first, second, whole, -⟩ := ih finished.tail
    exact ⟨[] :: front, behind, congrArg _ first, second, congrArg _ whole, by simp⟩
  | case5 c s _ notReturn notFeed ih =>
    have inner : isLineEnd c = false := by
      apply Bool.eq_false_iff.mpr
      intro ending
      rcases isLineEnd_iff.mp ending with rfl | rfl
      · exact notFeed rfl
      · exact notReturn rfl
    -- the line that `c` begins is not the blank one at the end, since the text is finished
    obtain ⟨front, behind, first, second, whole, some⟩ := ih finished.tail
    obtain ⟨line, front, rfl⟩ := List.exists_cons_of_ne_nil (some (finished.ne_nil inner))
    refine ⟨(c :: line) :: front, behind, ?_, second, ?_, by simp⟩
    · rw [first]
      rfl
    · rw [List.cons_append, lines_inner inner, whole]
      rfl

end Lines

section Edges

variable {ls ls' : List (List Char)} {edges : List Edge}

/-- All of the lines are of the format, and these are the edges that they hold. -/
def Hold (ls : List (List Char)) (edges : List Edge) : Prop :=
  ∃ held : List (Option Edge), List.Forall₂ Line (ls.map uncommented) held ∧
    held.reduceOption = edges

theorem written_iff_hold {text : List Char} :
    Written text edges ↔
      Hold (lines text) edges ∧ ∀ e ∈ edges, WithinRange e.1 ∧ WithinRange e.2 := by
  constructor
  · rintro ⟨held, isLines, rfl, within⟩
    exact ⟨⟨held, isLines, rfl⟩, within⟩
  · rintro ⟨⟨held, isLines, rfl⟩, within⟩
    exact ⟨held, isLines, rfl, within⟩

theorem hold_append :
    Hold (ls ++ ls') edges ↔
      ∃ first second, Hold ls first ∧ Hold ls' second ∧ first ++ second = edges := by
  constructor
  · rintro ⟨held, isLines, rfl⟩
    rw [List.map_append] at isLines
    refine ⟨_, _, ⟨_, (List.forall₂_take_append _ _ _ isLines.flip).flip, rfl⟩,
      ⟨_, (List.forall₂_drop_append _ _ _ isLines.flip).flip, rfl⟩, ?_⟩
    rw [← List.reduceOption_append, List.take_append_drop]
  · rintro ⟨_, _, ⟨held, isLines, rfl⟩, ⟨held', isLines', rfl⟩, rfl⟩
    refine ⟨held ++ held', ?_, List.reduceOption_append held held'⟩
    rw [List.map_append]
    exact List.rel_append isLines isLines'

theorem line_nil_iff {held : Option Edge} : Line [] held ↔ held = none := by
  constructor
  · intro isLine
    generalize whole : ([] : List Char) = line at isLine
    cases isLine with
    | blank => rfl
    | edge _ writes =>
      obtain ⟨c, cs, rfl, -⟩ := writes.head
      simp at whole
  · rintro rfl
    exact Line.blank (by simp [Blanks])

theorem hold_blank : Hold [[]] edges ↔ edges = [] := by
  constructor
  · rintro ⟨held, isLines, rfl⟩
    obtain ⟨head, rest, isLine, later, rfl⟩ := List.forall₂_cons_left_iff.mp isLines
    obtain rfl := line_nil_iff.mp isLine
    obtain rfl := List.forall₂_nil_left_iff.mp later
    rfl
  · rintro rfl
    exact ⟨[none], List.Forall₂.cons (line_nil_iff.mpr rfl) List.Forall₂.nil, rfl⟩

theorem hold_append_blank : Hold (ls ++ [[]]) edges ↔ Hold ls edges := by
  simp [hold_append, hold_blank]

theorem hold_cons_blank : Hold ([] :: ls) edges ↔ Hold ls edges := by
  rw [← List.singleton_append, hold_append]
  simp [hold_blank]

/-- A finished text and the one behind it hold their edges line by line. -/
theorem hold_lines_append {s : List Char} (finished : Finished s) (t : List Char) :
    Hold (lines (s ++ t)) edges ↔
      ∃ first second, Hold (lines s) first ∧ Hold (lines t) second ∧ first ++ second = edges := by
  obtain ⟨front, behind, atFirst, atSecond, whole, -⟩ := exists_lines_append finished t
  have keptFirst (first : List Edge) : Hold (lines s) first ↔ Hold front first := by
    rw [atFirst, hold_append_blank]
  have keptSecond (second : List Edge) : Hold (lines t) second ↔ Hold behind second := by
    rcases atSecond with same | taken
    · rw [same]
    · rw [taken, hold_cons_blank]
  simp only [whole, hold_append, keptFirst, keptSecond]

end Edges

/-- A text behind a finished one is parsed as if it stood alone: the whole is accepted exactly if both
parts are, and has the edges of both. -/
theorem ofString_append {s : String} (finished : Finished s.toList) (t : String)
    (edges : List Edge) :
    ofString (s ++ t) = .ok edges ↔
      ∃ first second, ofString s = .ok first ∧ ofString t = .ok second ∧
        first ++ second = edges := by
  simp only [ofString, parse_eq_ok_iff_written, written_iff_hold, String.toList_append,
    hold_lines_append finished]
  constructor
  · rintro ⟨⟨first, second, holds, holds', rfl⟩, within⟩
    obtain ⟨within, within'⟩ := List.forall_mem_append.mp within
    exact ⟨first, second, ⟨holds, within⟩, ⟨holds', within'⟩, rfl⟩
  · rintro ⟨first, second, ⟨holds, within⟩, ⟨holds', within'⟩, rfl⟩
    exact ⟨⟨first, second, holds, holds', rfl⟩, List.forall_mem_append.mpr ⟨within, within'⟩⟩

/-- The first text ends with a comment and a carriage return, the second begins with a line feed. -/
theorem ofString_append_straddling :
    Finished "0 1\n1,2 # last\r".toList ∧
      ofString ("0 1\n1,2 # last\r" ++ "\n2 0") = .ok [(0, 1), (1, 2), (2, 0)] := by
  have finished : Finished "0 1\n1,2 # last\r".toList := by
    have last : "0 1\n1,2 # last\r".toList.getLast? = some '\r' := by decide
    intro c hc
    rw [last] at hc
    obtain rfl := Option.some.inj hc
    rfl
  have first : ofString "0 1\n1,2 # last\r" = .ok [(0, 1), (1, 2)] := by cbv
  have second : ofString "\n2 0" = .ok [(2, 0)] := by cbv
  exact ⟨finished, (ofString_append finished "\n2 0" _).mpr ⟨_, _, first, second, rfl⟩⟩

end Motif.EdgeList
