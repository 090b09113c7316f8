import Mathlib
import Motif.Proofs.EdgeList.Format

/-!
# Reading one line

Skipping stops either at the end of the line or in front of something that is neither a blank nor a
comment, and only in the second case blanks are all that was skipped. So what is read in between
is told from where the reader has stopped at last: at a line end, the line it has passed is a line
of the format, and every line of the format takes it there.
-/

set_option autoImplicit false

namespace Motif.EdgeList

/-- Nothing is left of the line. -/
def AtEnd (rest : List Char) : Prop := ∀ c, rest.head? = some c → isLineEnd c = true

theorem AtEnd.closes {rest : List Char} (h : AtEnd rest) : Closes rest :=
  fun c hc => Or.inr (h c hc)

theorem AtEnd.behindLine_eq {rest : List Char} (h : AtEnd rest) : behindLine rest = rest := by
  cases rest with
  | nil => rfl
  | cons c cs => exact behindLine_cons_of_end (h c rfl) cs

theorem atEnd_behindLine (cs : List Char) : AtEnd (behindLine cs) := by
  intro c hc
  have := List.head?_dropWhile_not (!isLineEnd ·) cs
  rw [← behindLine, hc] at this
  simpa using this

section Skip

theorem Blanks.append {bs bs' : List Char} (h : Blanks bs) (h' : Blanks bs') :
    Blanks (bs ++ bs') :=
  List.forall_mem_append.mpr ⟨h, h'⟩

/-- Something that is neither skipped nor a line end is in front. -/
def Opens (cs : List Char) : Prop :=
  ∃ c rest, cs = c :: rest ∧ isBlank c = false ∧ Visible c

theorem Opens.append {a : List Char} (h : Opens a) (rest : List Char) : Opens (a ++ rest) := by
  obtain ⟨c, cs, rfl, ink⟩ := h
  exact ⟨c, cs ++ rest, rfl, ink⟩

theorem Opens.not_atEnd {cs : List Char} (h : Opens cs) : ¬AtEnd cs := by
  obtain ⟨c, rest, rfl, _, visible⟩ := h
  intro ends
  cases visible.2.symm.trans (ends c rfl)

theorem skip_of_opens {cs : List Char} (h : Opens cs) : skip cs = cs := by
  obtain ⟨c, rest, rfl, ink, visible⟩ := h
  simp [skip, ink, visible.1]

theorem skip_of_closes {tail : List Char} (h : Closes tail) : skip tail = behindLine tail := by
  cases tail with
  | nil => rfl
  | cons c cs =>
    rcases h c rfl with rfl | ending
    · rfl
    · rw [behindLine_cons_of_end ending]
      rcases isLineEnd_iff.mp ending with rfl | rfl <;> rfl

theorem skip_append {bs : List Char} (blanks : Blanks bs) (cs : List Char) :
    skip (bs ++ cs) = skip cs := by
  induction bs with
  | nil => rfl
  | cons b bs ih =>
    obtain ⟨blank, blanks⟩ := List.forall_mem_cons.mp blanks
    rw [List.cons_append, skip, if_pos (isBlank_iff.mpr blank)]
    exact ih blanks

/-- Blanks are skipped, and behind them a comment if there is one. -/
theorem skip_cases (cs : List Char) :
    ∃ bs rest, Blanks bs ∧ cs = bs ++ rest ∧
      (Closes rest ∧ skip cs = behindLine rest ∨ Opens rest ∧ skip cs = rest) := by
  fun_induction skip cs with
  | case1 => exact ⟨[], [], by simp [Blanks], rfl, Or.inl ⟨by simp [Closes], rfl⟩⟩
  | case2 c cs blank ih =>
    obtain ⟨bs, rest, blanks, rfl, stop⟩ := ih
    exact ⟨c :: bs, rest, List.forall_mem_cons.mpr ⟨isBlank_iff.mp blank, blanks⟩, rfl, stop⟩
  | case3 cs => exact ⟨[], '#' :: cs, by simp [Blanks], rfl, Or.inl ⟨by simp [Closes], rfl⟩⟩
  | case4 c cs ink unmarked =>
    refine ⟨[], c :: cs, by simp [Blanks], rfl, ?_⟩
    by_cases ending : isLineEnd c = true
    · left
      exact ⟨by simp [Closes, ending], (behindLine_cons_of_end ending cs).symm⟩
    · right
      simp only [Bool.not_eq_true] at ink ending
      exact ⟨⟨c, cs, rfl, ink, unmarked, ending⟩, rfl⟩

theorem exists_blanks_of_not_atEnd {cs : List Char} (h : ¬AtEnd (skip cs)) :
    ∃ bs, Blanks bs ∧ cs = bs ++ skip cs := by
  obtain ⟨bs, rest, blanks, whole, ⟨_, stop⟩ | ⟨_, stop⟩⟩ := skip_cases cs
  · rw [stop] at h
    exact absurd (atEnd_behindLine rest) h
  · exact ⟨bs, blanks, by rw [stop]; exact whole⟩

theorem exists_tail_of_atEnd {cs : List Char} (h : AtEnd (skip cs)) :
    ∃ bs tail, Blanks bs ∧ cs = bs ++ tail ∧ Closes tail ∧ skip cs = behindLine tail := by
  obtain ⟨bs, rest, blanks, whole, ⟨closes, stop⟩ | ⟨opens, stop⟩⟩ := skip_cases cs
  · exact ⟨bs, rest, blanks, whole, closes, stop⟩
  · rw [stop] at h
    exact absurd h opens.not_atEnd

end Skip

section Numerals

theorem NoDigit.of_append {front rest : List Char} (h : NoDigit (front ++ rest)) :
    NoDigit front := by
  intro c hc
  apply h c
  rw [List.head?_append, hc]
  rfl

theorem NoDigit.append {front : List Char} (h : NoDigit front) (ne : front ≠ [])
    (rest : List Char) : NoDigit (front ++ rest) := by
  intro c hc
  rw [List.head?_append_of_ne_nil _ ne] at hc
  exact h c hc

theorem isDigit_of_blank {c : Char} (h : c = ' ' ∨ c = '\t') : c.isDigit = false := by
  rcases h with rfl | rfl <;> rfl

theorem Closes.noDigit {tail : List Char} (h : Closes tail) : NoDigit tail := by
  intro c hc
  rcases h c hc with rfl | ending
  · rfl
  · rcases isLineEnd_iff.mp ending with rfl | rfl <;> rfl

theorem Blanks.noDigit_append {bs tail : List Char} (h : Blanks bs) (closes : Closes tail) :
    NoDigit (bs ++ tail) := by
  cases bs with
  | nil => exact closes.noDigit
  | cons b bs =>
    intro c hc
    obtain rfl := Option.some.inj hc
    exact isDigit_of_blank (h b List.mem_cons_self)

theorem Writes.head {a : List Char} {x : Int} (h : Writes a x) :
    ∃ c cs, a = c :: cs ∧ (c = '-' ∨ c.isDigit = true) := by
  cases h with
  | natural ne digits =>
    obtain ⟨c, cs, rfl⟩ := List.exists_cons_of_ne_nil ne
    exact ⟨c, cs, rfl, Or.inr (digits c List.mem_cons_self)⟩
  | @negative ds _ _ => exact ⟨'-', ds, rfl, Or.inl rfl⟩

theorem Writes.opens {a : List Char} {x : Int} (h : Writes a x) : Opens a := by
  obtain ⟨c, cs, rfl, front⟩ := h.head
  refine ⟨c, cs, rfl, ?_, h.visible c List.mem_cons_self⟩
  apply Bool.eq_false_iff.mpr
  intro blank
  rcases front with rfl | digit
  · cases blank
  · cases digit.symm.trans (isDigit_of_blank (isBlank_iff.mp blank))

theorem Writes.not_comma {a : List Char} {x : Int} (h : Writes a x) (rest : List Char) :
    (a ++ rest).head? ≠ some ',' := by
  obtain ⟨c, cs, rfl, front⟩ := h.head
  intro comma
  obtain rfl := Option.some.inj comma
  rcases front with minus | digit
  · cases minus
  · cases digit

namespace Numeral

theorem magnitude_eq (ds : List Char) : magnitude ds = decimal ds := by
  rw [decimal, Nat.ofDigits_eq_foldr, List.foldr_map, List.foldr_reverse]
  unfold magnitude
  congr 1
  funext n d
  rw [Nat.add_comm]
  rfl

theorem head?_ne_minus {ds : List Char} (allDigits : ∀ d ∈ ds, d.isDigit = true) :
    ds.head? ≠ some '-' := by
  intro minus
  cases allDigits '-' (List.mem_of_mem_head? minus)

theorem digits_append {ds rest : List Char} (allDigits : ∀ d ∈ ds, d.isDigit = true)
    (stops : NoDigit rest) :
    digits (ds ++ rest) = ds ∧ (ds ++ rest).dropWhile Char.isDigit = rest := by
  rw [digits, List.takeWhile_append_of_pos allDigits, List.dropWhile_append_of_pos allDigits]
  cases rest with
  | nil => simp
  | cons c cs => simp [stops c rfl]

theorem read?_of_writes {a rest : List Char} {x : Int} (h : Writes a x) (stops : NoDigit rest) :
    ∃ n, read? (a ++ rest) = some (n, rest) ∧ n.value = x := by
  cases h with
  | natural ne allDigits =>
    obtain ⟨run, behind⟩ := digits_append allDigits stops
    have unsigned : a.head? ≠ some '-' := head?_ne_minus allDigits
    refine ⟨⟨a, a ++ rest⟩, ?_, ?_⟩
    · simp [read?, List.head?_append_of_ne_nil _ ne, unsigned, run, behind, ne]
    · simp [value, unsigned, magnitude_eq]
  | @negative ds ne allDigits =>
    obtain ⟨run, behind⟩ := digits_append allDigits stops
    refine ⟨⟨'-' :: ds, '-' :: ds ++ rest⟩, ?_, ?_⟩
    · simp [read?, run, behind, ne]
    · simp [value, magnitude_eq]

theorem writes_of_read? {cs rest : List Char} {n : Numeral} (h : read? cs = some (n, rest)) :
    ∃ a, cs = a ++ rest ∧ Writes a n.value ∧ NoDigit rest := by
  have stops (ds : List Char) : NoDigit (ds.dropWhile Char.isDigit) := by
    intro c hc
    have := List.head?_dropWhile_not Char.isDigit ds
    rw [hc] at this
    simpa using this
  have allDigits (ds : List Char) : ∀ d ∈ digits ds, d.isDigit = true :=
    fun d hd => List.mem_takeWhile_imp hd
  unfold read? at h
  by_cases minus : cs.head? = some '-'
  · obtain ⟨ds, rfl⟩ := List.head?_eq_some_iff.mp minus
    simp only [List.head?_cons, if_true, List.tail_cons, Option.ite_none_left_eq_some,
      List.isEmpty_iff, Option.some.injEq, Prod.mk.injEq] at h
    obtain ⟨ne, rfl, rfl⟩ := h
    refine ⟨'-' :: digits ds, ?_, ?_, stops ds⟩
    · rw [List.cons_append, digits, List.takeWhile_append_dropWhile]
    · have := Writes.negative ne (allDigits ds)
      rw [← magnitude_eq] at this
      exact this
  · simp only [minus, if_false, Option.ite_none_left_eq_some, List.isEmpty_iff,
      Option.some.injEq, Prod.mk.injEq, List.nil_append] at h
    obtain ⟨ne, rfl, rfl⟩ := h
    refine ⟨digits cs, ?_, ?_, stops cs⟩
    · rw [digits, List.takeWhile_append_dropWhile]
    · have unsigned : (digits cs).head? ≠ some '-' := head?_ne_minus (allDigits cs)
      have := Writes.natural ne (allDigits cs)
      rw [← magnitude_eq] at this
      simpa [value, unsigned] using this

theorem not_atEnd_of_read? {cs rest : List Char} {n : Numeral}
    (h : read? cs = some (n, rest)) : ¬AtEnd cs := by
  obtain ⟨a, rfl, writes, _⟩ := writes_of_read? h
  exact (writes.opens.append rest).not_atEnd

theorem read?_of_atEnd {cs : List Char} (h : AtEnd cs) : read? cs = none := by
  cases found : read? cs with
  | none => rfl
  | some read => exact absurd h (not_atEnd_of_read? found)

end Numeral

end Numerals

section Separator

/-- Skips what may stand between the two integers of a line. -/
def skipSeparator (cs : List Char) : List Char := skip (skipComma (skip cs))

theorem skipComma_of_not_comma {cs : List Char} (h : cs.head? ≠ some ',') : skipComma cs = cs :=
  if_neg h

theorem skipSeparator_append {sep cs : List Char} (separates : Separates sep) (opens : Opens cs)
    (notComma : cs.head? ≠ some ',') : skipSeparator (sep ++ cs) = cs := by
  cases separates with
  | blanks blanks =>
    rw [skipSeparator, skip_append blanks, skip_of_opens opens, skipComma_of_not_comma notComma,
      skip_of_opens opens]
  | @comma bs bs' blanks blanks' =>
    have comma : Opens (',' :: bs' ++ cs) := ⟨',', bs' ++ cs, rfl, rfl, by decide, rfl⟩
    rw [skipSeparator, List.append_assoc, skip_append blanks, skip_of_opens comma]
    exact (skip_append blanks' cs).trans (skip_of_opens opens)

theorem separates_of_not_atEnd {cs : List Char} (h : ¬AtEnd (skipSeparator cs)) :
    ∃ sep, Separates sep ∧ cs = sep ++ skipSeparator cs := by
  obtain ⟨bs', blanks', second⟩ :
      ∃ bs', Blanks bs' ∧ skipComma (skip cs) = bs' ++ skipSeparator cs :=
    exists_blanks_of_not_atEnd h
  -- skipping stays at the end of a line once it is there, since no comma stands there
  have inside : ¬AtEnd (skip cs) := by
    intro ends
    have notComma : (skip cs).head? ≠ some ',' := by
      intro comma
      cases ends ',' comma
    apply h
    rw [skipSeparator, skipComma_of_not_comma notComma, skip_of_closes ends.closes,
      ends.behindLine_eq]
    exact ends
  obtain ⟨bs, blanks, first⟩ := exists_blanks_of_not_atEnd inside
  by_cases comma : (skip cs).head? = some ','
  · obtain ⟨rest, split⟩ := List.head?_eq_some_iff.mp comma
    have behind : rest = bs' ++ skipSeparator cs := by
      rw [← second, split]
      rfl
    refine ⟨bs ++ ',' :: bs', Separates.comma blanks blanks', ?_⟩
    calc cs = bs ++ skip cs := first
      _ = bs ++ ',' :: (bs' ++ skipSeparator cs) := by rw [split, ← behind]
      _ = bs ++ ',' :: bs' ++ skipSeparator cs := by simp
  · rw [skipComma_of_not_comma comma] at second
    refine ⟨bs ++ bs', Separates.blanks (blanks.append blanks'), ?_⟩
    calc cs = bs ++ skip cs := first
      _ = bs ++ (bs' ++ skipSeparator cs) := by rw [← second]
      _ = bs ++ bs' ++ skipSeparator cs := (List.append_assoc bs bs' _).symm

end Separator

section Entries

/-- The ids of an entry as integers, whether they are within range or not. -/
def Entry.ids (e : Entry) : Edge := (e.src.value, e.dst.value)

theorem entry_eq (cs : List Char) :
    entry cs = match Numeral.read? (skip cs) with
      | none => .ok (none, skip cs)
      | some (src, rest) =>
        match Numeral.read? (skipSeparator rest) with
        | none => .error ⟨skipSeparator rest, .expectedInteger⟩
        | some (dst, rest) => .ok (some ⟨src, dst⟩, skip rest) := rfl

/-- What has been passed when nothing is left of a line is a line of the format. -/
theorem line_of_entry {cs rest : List Char} {e : Option Entry} (h : entry cs = .ok (e, rest))
    (ends : AtEnd rest) :
    ∃ line tail, cs = line ++ tail ∧ Closes tail ∧ rest = behindLine tail ∧
      Line line (e.map Entry.ids) := by
  rw [entry_eq] at h
  split at h
  next =>
    obtain ⟨rfl, rfl⟩ := Prod.mk.inj (Except.ok.inj h)
    obtain ⟨bs, tail, blanks, whole, closes, stop⟩ := exists_tail_of_atEnd ends
    exact ⟨bs, tail, whole, closes, stop, Line.blank blanks⟩
  next src rest₁ first =>
    split at h
    next => cases h
    next dst rest₂ second =>
      obtain ⟨rfl, rfl⟩ := Prod.mk.inj (Except.ok.inj h)
      -- both integers have been read, so only the last skip can have passed a comment
      obtain ⟨before, blanks, whole⟩ :=
        exists_blanks_of_not_atEnd (Numeral.not_atEnd_of_read? first)
      obtain ⟨a, front, writes, stops⟩ := Numeral.writes_of_read? first
      obtain ⟨between, separates, gap⟩ :=
        separates_of_not_atEnd (Numeral.not_atEnd_of_read? second)
      obtain ⟨b, middle, writes', _⟩ := Numeral.writes_of_read? second
      obtain ⟨behind, tail, blanks', back, closes, stop⟩ := exists_tail_of_atEnd ends
      rw [middle] at gap
      refine ⟨before ++ (a ++ (between ++ (b ++ behind))), tail, ?_, closes, stop,
        Line.edge blanks writes ?_ separates writes' blanks'⟩
      · calc cs = before ++ skip cs := whole
          _ = before ++ (a ++ (between ++ (b ++ (behind ++ tail)))) := by
            rw [front, gap, back]
          _ = before ++ (a ++ (between ++ (b ++ behind))) ++ tail := by simp
      · rw [gap, ← List.append_assoc] at stops
        exact stops.of_append

theorem entry_of_line {line tail : List Char} {held : Option Edge} (h : Line line held)
    (closes : Closes tail) :
    ∃ e, entry (line ++ tail) = .ok (e, behindLine tail) ∧ e.map Entry.ids = held := by
  rw [entry_eq]
  cases h with
  | blank blanks =>
    refine ⟨none, ?_, rfl⟩
    rw [skip_append blanks, skip_of_closes closes,
      Numeral.read?_of_atEnd (atEnd_behindLine tail)]
  | @edge before a between b behind x y blanks writes stops separates writes' blanks' =>
    have ne : between ++ b ≠ [] := by
      obtain ⟨c, cs, rfl, _⟩ := writes'.head
      simp
    have stops' : NoDigit (between ++ (b ++ (behind ++ tail))) := by
      rw [← List.append_assoc]
      exact stops.append ne _
    obtain ⟨src, first, rfl⟩ := Numeral.read?_of_writes writes stops'
    obtain ⟨dst, second, rfl⟩ :=
      Numeral.read?_of_writes writes' (blanks'.noDigit_append closes)
    refine ⟨some ⟨src, dst⟩, ?_, rfl⟩
    simp only [List.append_assoc]
    rw [skip_append blanks, skip_of_opens (writes.opens.append _), first]
    dsimp only
    rw [skipSeparator_append separates (writes'.opens.append _) (writes'.not_comma _), second]
    dsimp only
    rw [skip_append blanks', skip_of_closes closes]

end Entries

end Motif.EdgeList
