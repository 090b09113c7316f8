import Motif.Proofs.EdgeList.Parse

/-!
# Ids without a separator

Digits would run on into the digits of the next id, so two ids written with digits alone are kept apart by a
blank or a comma. A sign keeps the next id apart as well, and then nothing else has to stand in between.
So the ids of an accepted text have separators exactly if none of its minus signs stands right behind a
digit.
-/

set_option autoImplicit false

namespace Motif.EdgeList

/-- A line with an edge whose ids have a blank or a comma between them. -/
inductive Parted : List Char → Edge → Prop
  | edge {before a between b behind : List Char} {x y : Int} :
      Blanks before → Writes a x → Separates between → between ≠ [] → Writes b y →
      Blanks behind → Parted (before ++ (a ++ (between ++ (b ++ behind)))) (x, y)

/-- Somewhere in a line one integer ends and the next begins at once. -/
def Touching (line : List Char) : Prop :=
  ∃ front a b back x y, line = front ++ (a ++ (b ++ back)) ∧ Writes a x ∧ NoDigit b ∧ Writes b y

/-- No minus sign stands right behind a digit. -/
def Loose (line : List Char) : Prop := line.IsChain fun c d => ¬(c.isDigit = true ∧ d = '-')

instance (line : List Char) : Decidable (Loose line) :=
  inferInstanceAs (Decidable (line.IsChain _))

section Characters

variable {a bs cs sep : List Char} {x : Int}

theorem Separates.blank_or_comma (h : Separates sep) :
    ∀ c ∈ sep, (c = ' ' ∨ c = '\t') ∨ c = ',' := by
  cases h with
  | blanks blanks => exact fun c hc => Or.inl (blanks c hc)
  | comma blanks blanks' =>
    intro c hc
    rcases List.mem_append.mp hc with hc | hc
    · exact Or.inl (blanks c hc)
    · rcases List.mem_cons.mp hc with rfl | hc
      · exact Or.inr rfl
      · exact Or.inl (blanks' c hc)

theorem Separates.head?_ne_minus (h : Separates sep) : sep.head? ≠ some '-' := by
  intro minus
  have := h.blank_or_comma '-' (List.mem_of_mem_head? minus)
  simp at this

theorem Separates.loose_append (h : Separates sep) (loose : Loose cs) : Loose (sep ++ cs) := by
  have noDigits : ∀ c ∈ sep, c.isDigit = false := by
    intro c hc
    rcases h.blank_or_comma c hc with blank | rfl
    · exact isDigit_of_blank blank
    · rfl
  clear h
  induction sep with
  | nil => exact loose
  | cons c sep ih =>
    obtain ⟨first, later⟩ := List.forall_mem_cons.mp noDigits
    refine List.isChain_cons.mpr ⟨fun d _ signed => ?_, ih later⟩
    cases first.symm.trans signed.1

theorem Blanks.loose (h : Blanks bs) : Loose bs := by
  have := (Separates.blanks h).loose_append List.isChain_nil
  rwa [List.append_nil] at this

theorem loose_cons_of_digits (c : Char) (digits : ∀ d ∈ cs, d.isDigit = true) : Loose (c :: cs) := by
  induction cs generalizing c with
  | nil => exact List.isChain_singleton c
  | cons d cs ih =>
    obtain ⟨first, later⟩ := List.forall_mem_cons.mp digits
    refine List.isChain_cons_cons.mpr ⟨?_, ih d later⟩
    rintro ⟨-, rfl⟩
    cases first

theorem Writes.loose (h : Writes a x) : Loose a := by
  cases h with
  | natural ne digits =>
    obtain ⟨c, cs, rfl⟩ := List.exists_cons_of_ne_nil ne
    exact loose_cons_of_digits c (List.forall_mem_cons.mp digits).2
  | negative _ digits => exact loose_cons_of_digits '-' digits

theorem Writes.loose_append (h : Writes a x) (loose : Loose cs) (unsigned : cs.head? ≠ some '-') :
    Loose (a ++ cs) := by
  refine List.isChain_append.mpr ⟨h.loose, loose, ?_⟩
  rintro c - d hd ⟨-, rfl⟩
  exact unsigned hd

theorem Writes.exists_getLast? (h : Writes a x) : ∃ d, a.getLast? = some d ∧ d.isDigit = true := by
  cases h with
  | natural ne digits =>
    exact ⟨a.getLast ne, List.getLast?_eq_some_getLast ne, digits _ (List.getLast_mem ne)⟩
  | @negative ds ne digits =>
    refine ⟨ds.getLast ne, ?_, digits _ (List.getLast_mem ne)⟩
    rw [List.getLast?_cons, List.getLast?_eq_some_getLast ne]
    rfl

end Characters

section Lines

variable {line : List Char} {e : Edge}

theorem Parted.loose (h : Parted line e) : Loose line := by
  cases h with
  | @edge before a between b behind x y blanks writes separates ne writes' blanks' =>
    have second : Loose (b ++ behind) :=
      writes'.loose_append blanks'.loose (Separates.blanks blanks').head?_ne_minus
    have unsigned : (between ++ (b ++ behind)).head? ≠ some '-' := by
      rw [List.head?_append_of_ne_nil _ ne]
      exact separates.head?_ne_minus
    exact (Separates.blanks blanks).loose_append
      (writes.loose_append (separates.loose_append second) unsigned)

theorem Touching.not_loose (h : Touching line) : ¬Loose line := by
  obtain ⟨front, a, b, back, x, y, rfl, writes, stops, writes'⟩ := h
  obtain ⟨d, last, digit⟩ := writes.exists_getLast?
  obtain ⟨c, cs, rfl, minus | digit'⟩ := writes'.head
  · intro loose
    obtain ⟨-, loose, -⟩ := List.isChain_append.mp loose
    obtain ⟨-, -, meets⟩ := List.isChain_append.mp loose
    exact meets d last c rfl ⟨digit, minus⟩
  · cases digit'.symm.trans (stops c rfl)

theorem parted_or_touching (h : Line line (some e)) : Parted line e ∨ Touching line := by
  cases h with
  | @edge before a between b behind x y blanks writes stops separates writes' blanks' =>
    by_cases ne : between = []
    · subst ne
      exact Or.inr ⟨before, a, b, behind, x, y, rfl, writes, stops, writes'⟩
    · exact Or.inl (Parted.edge blanks writes separates ne writes' blanks')

theorem loose_of_line {held : Option Edge} (h : Line line held)
    (parted : ∀ e, held = some e → Parted line e) : Loose line := by
  cases held with
  | none =>
    cases h with
    | blank blanks => exact blanks.loose
  | some e => exact (parted e rfl).loose

end Lines

/-- The ids of a text have separators: those of each edge that is read are parted, and a text with two
integers that touch is refused. -/
structure KeepsApart (text : String) : Prop where
  parted : ∀ edges, ofString text = .ok edges → ∃ held : List (Option Edge),
    List.Forall₂ (fun line held => Line line held ∧ ∀ e, held = some e → Parted line e)
      ((lines text.toList).map uncommented) held ∧ held.reduceOption = edges
  refused : (∃ line ∈ (lines text.toList).map uncommented, Touching line) →
    ∃ err, ofString text = .error err ∧ err.category? = some .parse

/-- An accepted text keeps its ids apart exactly if no line of it, without its comment, has a minus sign
right behind a digit; a text that is refused has no ids to keep apart. -/
theorem keepsApart_iff_loose (text : String) :
    KeepsApart text ↔ ((∃ edges, ofString text = .ok edges) →
      ∀ line ∈ (lines text.toList).map uncommented, Loose line) := by
  constructor
  · rintro keeps ⟨edges, accepted⟩
    obtain ⟨held, isLines, -⟩ := keeps.parted edges accepted
    have loose := isLines.imp fun line held h => And.intro (loose_of_line h.1 h.2) h.1
    exact ((List.forall₂_and_left _ _).mp loose).1
  · intro loose
    constructor
    · intro edges accepted
      obtain ⟨held, isLines, written, -⟩ := parse_eq_ok_iff_written.mp accepted
      refine ⟨held, ?_, written⟩
      have whole := (List.forall₂_and_left _ _).mpr ⟨loose ⟨edges, accepted⟩, isLines⟩
      refine whole.imp ?_
      rintro line held ⟨apart, isLine⟩
      refine ⟨isLine, ?_⟩
      rintro e rfl
      exact (parted_or_touching isLine).resolve_right fun touching => touching.not_loose apart
    · rintro ⟨line, hline, touching⟩
      cases result : ofString text with
      | ok edges => exact absurd (loose ⟨edges, result⟩ line hline) touching.not_loose
      | error err => exact ⟨err, rfl, category?_of_parse result⟩

/-- Behind a digit, a minus sign begins the second id of an edge. -/
theorem not_keepsApart_minus :
    ofString "0-1" = .ok [(0, -1)] ∧ ¬Parted "0-1".toList (0, -1) ∧ ¬KeepsApart "0-1" := by
  have accepted : ofString "0-1" = .ok [(0, -1)] := by cbv
  refine ⟨accepted, fun parted => absurd parted.loose (by decide), fun keeps => ?_⟩
  have touching : Touching "0-1".toList :=
    ⟨[], ['0'], ['-', '1'], [], _, _, rfl, .natural (by simp) (by simp), by simp [NoDigit],
      .negative (by simp) (by simp)⟩
  have held : "0-1".toList ∈ (lines "0-1".toList).map uncommented := List.mem_singleton.mpr rfl
  obtain ⟨err, refused, -⟩ := keeps.refused ⟨_, held, touching⟩
  cases accepted.symm.trans refused

end Motif.EdgeList
