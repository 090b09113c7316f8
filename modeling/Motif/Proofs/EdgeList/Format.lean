import Mathlib
import Motif.EdgeList.Parse

/-!
# The format of edge lists

A text is cut into lines, and each line at its first number sign. What is left of a line is blank, or
it writes an edge: two integers with blanks around them and at most one comma between them. The
format says nothing of how a text is read.
-/

set_option autoImplicit false

namespace Motif.EdgeList

/-- The lines of a text without their ends, also the one behind the last end. -/
def lines : List Char → List (List Char)
  | [] => [[]]
  | '\r' :: '\n' :: cs => [] :: lines cs
  | '\r' :: cs => [] :: lines cs
  | '\n' :: cs => [] :: lines cs
  | c :: cs => (lines cs).modifyHead (c :: ·)

def uncommented (line : List Char) : List Char := line.takeWhile (· ≠ '#')

def Blanks (cs : List Char) : Prop := ∀ c ∈ cs, c = ' ' ∨ c = '\t'

/-- The number that decimal digits stand for, the last one counting ones. -/
def decimal (ds : List Char) : Nat :=
  Nat.ofDigits 10 (ds.reverse.map fun d => d.toNat - '0'.toNat)

/-- An integer as it is written: digits, perhaps behind a minus sign. -/
inductive Writes : List Char → Int → Prop
  | natural {ds : List Char} : ds ≠ [] → (∀ d ∈ ds, d.isDigit = true) →
      Writes ds (decimal ds)
  | negative {ds : List Char} : ds ≠ [] → (∀ d ∈ ds, d.isDigit = true) →
      Writes ('-' :: ds) (-decimal ds)

/-- A run of digits that ends here is as long as it can be. -/
def NoDigit (rest : List Char) : Prop := ∀ c, rest.head? = some c → c.isDigit = false

/-- What may stand between the two integers of a line: blanks with at most one comma. -/
inductive Separates : List Char → Prop
  | blanks {bs : List Char} : Blanks bs → Separates bs
  | comma {bs bs' : List Char} : Blanks bs → Blanks bs' → Separates (bs ++ ',' :: bs')

/-- What a line without its comment holds: nothing, or an edge. -/
inductive Line : List Char → Option Edge → Prop
  | blank {bs : List Char} : Blanks bs → Line bs none
  | edge {before a between b behind : List Char} {x y : Int} :
      Blanks before → Writes a x → NoDigit (between ++ b) → Separates between → Writes b y →
      Blanks behind → Line (before ++ (a ++ (between ++ (b ++ behind)))) (some (x, y))

def WithinRange (id : Int) : Prop := -2 ^ 31 ≤ id ∧ id ≤ 2 ^ 31 - 1

/-- A text in the format, with its edges in the order of the lines. -/
def Written (text : List Char) (edges : List Edge) : Prop :=
  ∃ held : List (Option Edge), List.Forall₂ Line ((lines text).map uncommented) held ∧
    held.reduceOption = edges ∧ ∀ e ∈ edges, WithinRange e.1 ∧ WithinRange e.2

section Characters

theorem isBlank_iff {c : Char} : isBlank c = true ↔ c = ' ' ∨ c = '\t' := by
  simp [isBlank]

theorem isLineEnd_iff {c : Char} : isLineEnd c = true ↔ c = '\n' ∨ c = '\r' := by
  simp [isLineEnd]

/-- A character that a line without its comment can hold. -/
def Visible (c : Char) : Prop := c ≠ '#' ∧ isLineEnd c = false

theorem visible_of_isDigit {c : Char} (h : c.isDigit = true) : Visible c := by
  constructor
  · rintro rfl
    cases h
  · apply Bool.eq_false_iff.mpr
    intro ending
    rcases isLineEnd_iff.mp ending with rfl | rfl <;> cases h

theorem visible_of_blank {c : Char} (h : c = ' ' ∨ c = '\t') : Visible c := by
  rcases h with rfl | rfl <;> exact ⟨by decide, by decide⟩

theorem Writes.visible {a : List Char} {x : Int} (h : Writes a x) : ∀ c ∈ a, Visible c := by
  cases h with
  | natural _ digits => exact fun c hc => visible_of_isDigit (digits c hc)
  | negative _ digits =>
    intro c hc
    rcases List.mem_cons.mp hc with rfl | hc
    · exact ⟨by decide, by decide⟩
    · exact visible_of_isDigit (digits c hc)

theorem Separates.visible {bs : List Char} (h : Separates bs) : ∀ c ∈ bs, Visible c := by
  cases h with
  | blanks blanks => exact fun c hc => visible_of_blank (blanks c hc)
  | comma blanks blanks' =>
    intro c hc
    rcases List.mem_append.mp hc with hc | hc
    · exact visible_of_blank (blanks c hc)
    · rcases List.mem_cons.mp hc with rfl | hc
      · exact ⟨by decide, by decide⟩
      · exact visible_of_blank (blanks' c hc)

theorem Line.visible {line : List Char} {held : Option Edge} (h : Line line held) :
    ∀ c ∈ line, Visible c := by
  cases h with
  | blank blanks => exact fun c hc => visible_of_blank (blanks c hc)
  | edge before a _ between b behind =>
    intro c hc
    simp only [List.mem_append] at hc
    rcases hc with hc | hc | hc | hc | hc
    · exact visible_of_blank (before c hc)
    · exact a.visible c hc
    · exact between.visible c hc
    · exact b.visible c hc
    · exact visible_of_blank (behind c hc)

end Characters

section Lines

/-- The text from the end of its first line on. -/
def behindLine (cs : List Char) : List Char := cs.dropWhile (!isLineEnd ·)

/-- A text that a line has to stop in front of: a comment, a line end, or nothing. -/
def Closes (tail : List Char) : Prop :=
  ∀ c, tail.head? = some c → c = '#' ∨ isLineEnd c = true

theorem behindLine_cons_of_end {c : Char} (h : isLineEnd c = true) (cs : List Char) :
    behindLine (c :: cs) = c :: cs := by
  simp [behindLine, h]

theorem behindLine_append {line : List Char} (visible : ∀ c ∈ line, Visible c)
    (tail : List Char) : behindLine (line ++ tail) = behindLine tail := by
  apply List.dropWhile_append_of_pos
  intro c hc
  simp [(visible c hc).2]

theorem lineEnd?_return {cs : List Char} (notFeed : ∀ rest, cs ≠ '\n' :: rest) :
    lineEnd? ('\r' :: cs) = some cs := by
  cases cs with
  | nil => rfl
  | cons c cs =>
    unfold lineEnd?
    split
    next heq => exact absurd (List.cons.inj heq).2 (notFeed _)
    next heq => cases heq
    next heq => rw [← (List.cons.inj heq).2]
    next other => exact absurd rfl (other _)

/-- The first line of a text and the lines behind its end. -/
theorem lines_eq (cs : List Char) :
    lines cs = cs.takeWhile (!isLineEnd ·) ::
      match lineEnd? (behindLine cs) with
      | some more => lines more
      | none => [] := by
  fun_induction lines cs with
  | case1 => rfl
  | case2 cs ih => rfl
  | case3 cs notFeed ih =>
    rw [behindLine_cons_of_end rfl, lineEnd?_return notFeed]
    rfl
  | case4 cs ih => rfl
  | case5 c cs _ notReturn notFeed ih =>
    have inner : isLineEnd c = false := by
      apply Bool.eq_false_iff.mpr
      intro ending
      rcases isLineEnd_iff.mp ending with rfl | rfl
      · exact notFeed rfl
      · exact notReturn rfl
    have behind : behindLine (c :: cs) = behindLine cs := by
      simp [behindLine, inner]
    rw [ih, behind, List.takeWhile_cons_of_pos (by simp [inner])]
    rfl

theorem uncommented_first {line tail : List Char} (visible : ∀ c ∈ line, Visible c)
    (closes : Closes tail) :
    uncommented ((line ++ tail).takeWhile (!isLineEnd ·)) = line := by
  have plain : ∀ c ∈ line, (!isLineEnd c) = true := fun c hc => by simp [(visible c hc).2]
  have unmarked : ∀ c ∈ line, decide (c ≠ '#') = true := fun c hc => by simp [(visible c hc).1]
  rw [uncommented, List.takeWhile_append_of_pos plain, List.takeWhile_append_of_pos unmarked]
  suffices (tail.takeWhile (!isLineEnd ·)).takeWhile (· ≠ '#') = [] by
    rw [this, List.append_nil]
  cases tail with
  | nil => rfl
  | cons c cs =>
    rcases closes c rfl with rfl | ending
    · rfl
    · rw [List.takeWhile_cons_of_neg (by simp [ending])]
      rfl

theorem exists_first (cs : List Char) :
    ∃ line tail, cs = line ++ tail ∧ (∀ c ∈ line, Visible c) ∧ Closes tail := by
  induction cs with
  | nil => exact ⟨[], [], rfl, by simp, by simp [Closes]⟩
  | cons c cs ih =>
    by_cases visible : Visible c
    · obtain ⟨line, tail, rfl, all, closes⟩ := ih
      refine ⟨c :: line, tail, rfl, ?_, closes⟩
      exact List.forall_mem_cons.mpr ⟨visible, all⟩
    · refine ⟨[], c :: cs, rfl, by simp, ?_⟩
      intro d hd
      obtain rfl := Option.some.inj hd
      by_cases marked : c = '#'
      · exact Or.inl marked
      · right
        by_contra inner
        exact visible ⟨marked, Bool.eq_false_iff.mpr inner⟩

end Lines

end Motif.EdgeList
