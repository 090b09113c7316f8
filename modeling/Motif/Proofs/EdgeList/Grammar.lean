import Motif.EdgeList.Grammar
import Motif.Proofs.EdgeList.Parse

/-!
# The scanner reads the grammar

Each rule of the grammar is told by what the scanner has for it: gaps are what it skips, an integer is a
numeral, and one round of the repetition, like the last line, is an entry with what has to stand behind
it. A line that goes wrong in its middle is no edge to the grammar, which then looks for a line end where
the line begins and finds none. So the repetition ends exactly where the scanner finds no line end, and
what follows is the end of the text or nothing that either of them accepts.
-/

set_option autoImplicit false

namespace Motif.EdgeList

/-- What the rule of an integer leaves behind. -/
def Numeral.pair (n : Numeral) : Pair := .matched .int n.lexeme n.place []

theorem AtEnd.dropWhile_isBlank {rest : List Char} (h : AtEnd rest) :
    rest.dropWhile isBlank = rest := by
  cases rest with
  | nil => rfl
  | cons c cs =>
    apply List.dropWhile_cons_of_neg
    rcases isLineEnd_iff.mp (h c rfl) with rfl | rfl <;> decide

theorem AtEnd.head?_ne_mark {rest : List Char} (h : AtEnd rest) : rest.head? ≠ some '#' :=
  fun marked => absurd (h '#' marked) (by decide)

namespace Peg

variable {body : List Char → Option Matched} {text cs rest : List Char} {pairs : List Pair}
  {first second : Peg}

theorem repeated_of_none (h : body cs = none) : repeated body cs = ([], cs) := by
  rw [repeated, h]

theorem repeated_of_some (h : body cs = some (pairs, rest)) (shorter : rest.length < cs.length) :
    repeated body cs = (pairs ++ (repeated body rest).1, (repeated body rest).2) := by
  rw [repeated, h]
  exact if_pos shorter

/-- One character again and again. -/
theorem repeated_one {p : Char → Bool} (nil : body [] = none)
    (cons : ∀ c cs, body (c :: cs) = if p c then some ([], cs) else none) (cs : List Char) :
    repeated body cs = ([], cs.dropWhile p) := by
  induction cs with
  | nil => exact repeated_of_none nil
  | cons c cs ih =>
    by_cases accepted : p c = true
    · rw [List.dropWhile_cons_of_pos accepted, repeated_of_some ((cons c cs).trans (if_pos accepted))
        (Nat.lt_succ_self _), ih]
      rfl
    · rw [List.dropWhile_cons_of_neg accepted,
        repeated_of_none ((cons c cs).trans (if_neg accepted))]

theorem run_seq_of_none (h : first.run text cs = none) : (seq first second).run text cs = none := by
  rw [run, h]
  rfl

theorem run_seq_of_some (h : first.run text cs = some (pairs, rest)) :
    (seq first second).run text cs =
      (second.run text rest).map fun m => (pairs ++ m.1, m.2) := by
  rw [run, h, Option.bind_eq_bind, Option.bind_some]
  dsimp only
  cases second.run text rest with
  | none => rfl
  | some m => rfl

theorem run_seq_of_silent (h : first.run text cs = some ([], rest)) :
    (seq first second).run text cs = second.run text rest := by
  rw [run_seq_of_some h]
  exact Option.map_id'

theorem run_optional_char (c : Char) (cs : List Char) :
    (optional (chars [c])).run text cs = some ([], if cs.head? = some c then cs.tail else cs) := by
  cases cs with
  | nil => rfl
  | cons d cs =>
    by_cases same : c = d
    · subst same
      simp [run]
    · simp [run, List.isPrefixOf, same, Ne.symm same]

end Peg

namespace Grammar

open Peg

variable {text : List Char}

section Characters

theorem run_newline (cs : List Char) :
    newline.run text cs = (lineEnd? cs).map fun rest => ([], rest) := by
  unfold lineEnd?
  split
  · rfl
  · rfl
  · next rest notFeed =>
    cases rest with
    | nil => rfl
    | cons c rest =>
      have : '\n' ≠ c := fun same => notFeed rest (by rw [same])
      simp [newline, Peg.run, List.isPrefixOf, this]
  · next notBoth notFeed notReturn =>
    cases cs with
    | nil => rfl
    | cons c rest =>
      have feed : '\n' ≠ c := fun same => notFeed rest (by rw [same])
      have back : '\r' ≠ c := fun same => notReturn rest (by rw [same])
      simp [newline, Peg.run, List.isPrefixOf, feed, back]

theorem repeated_whitespace (cs : List Char) :
    (Peg.many whitespace).run text cs = some ([], cs.dropWhile isBlank) := by
  have cons (c : Char) (cs : List Char) :
      whitespace.run text (c :: cs) = if isBlank c then some ([], cs) else none := by
    by_cases blank : c = ' '
    · subst blank
      rfl
    · by_cases tab : c = '\t'
      · subst tab
        rfl
      · simp [whitespace, Peg.run, List.isPrefixOf, isBlank, blank, tab, Ne.symm blank, Ne.symm tab]
  rw [Peg.run, repeated_one rfl cons]

/-- A comment takes the rest of its line. -/
theorem run_comment (cs : List Char) : comment.run text cs =
    if cs.head? = some '#' then some ([], behindLine cs.tail) else none := by
  have inner (cs : List Char) :
      (Peg.many (.seq (.no newline) (.one fun _ => true))).run text cs =
        some ([], behindLine cs) := by
    rw [Peg.run, behindLine, repeated_one rfl]
    intro c cs
    by_cases ending : isLineEnd c = true
    · obtain ⟨more, next⟩ := exists_behind_lineEnd ending cs
      have stopped : (Peg.no newline).run text (c :: cs) = none := by
        rw [Peg.run, run_newline, next]
        rfl
      rw [run_seq_of_none stopped, ending]
      rfl
    · have inside : lineEnd? (c :: cs) = none := by
        cases next : lineEnd? (c :: cs) with
        | none => rfl
        | some more => exact absurd (atEnd_of_lineEnd? next c rfl) ending
      have passed : (Peg.no newline).run text (c :: cs) = some ([], c :: cs) := by
        rw [Peg.run, run_newline, inside]
        rfl
      rw [run_seq_of_silent passed, Bool.eq_false_iff.mpr ending]
      rfl
  cases cs with
  | nil => rfl
  | cons c cs =>
    by_cases marked : c = '#'
    · subst marked
      exact (run_seq_of_silent rfl).trans (inner cs)
    · simp [comment, Peg.run, List.isPrefixOf, marked, Ne.symm marked]

theorem skip_eq (cs : List Char) : skip cs =
    if (cs.dropWhile isBlank).head? = some '#' then behindLine (cs.dropWhile isBlank).tail
    else cs.dropWhile isBlank := by
  fun_induction skip cs with
  | case1 => rfl
  | case2 c cs blank ih => rw [List.dropWhile_cons_of_pos blank, ih]
  | case3 cs => rfl
  | case4 c cs ink unmarked =>
    rw [List.dropWhile_cons_of_neg ink]
    simp [unmarked]

theorem run_gap (cs : List Char) : gap.run text cs = some ([], skip cs) := by
  rw [gap, run_seq_of_silent (repeated_whitespace cs), skip_eq]
  rw [Peg.run]
  by_cases marked : (cs.dropWhile isBlank).head? = some '#'
  · have ends := atEnd_behindLine (cs.dropWhile isBlank).tail
    have whole : (Peg.seq comment (.many whitespace)).run text (cs.dropWhile isBlank) =
        some ([], behindLine (cs.dropWhile isBlank).tail) := by
      rw [run_seq_of_silent ((run_comment _).trans (if_pos marked)), repeated_whitespace,
        ends.dropWhile_isBlank]
    have behind : (Peg.seq comment (.many whitespace)).run text
        (behindLine (cs.dropWhile isBlank).tail) = none :=
      run_seq_of_none ((run_comment _).trans (if_neg ends.head?_ne_mark))
    have shorter : (behindLine (cs.dropWhile isBlank).tail).length <
        (cs.dropWhile isBlank).length := by
      obtain ⟨rest, front⟩ := List.head?_eq_some_iff.mp marked
      rw [front]
      exact Nat.lt_succ_of_le (List.dropWhile_suffix _).length_le
    rw [if_pos marked, repeated_of_some whole shorter, repeated_of_none behind]
    rfl
  · rw [if_neg marked, repeated_of_none (run_seq_of_none ((run_comment _).trans (if_neg marked)))]

end Characters

section Gaps

variable {pairs : List Pair} {rest cs : List Char} {first second e : Peg}

theorem run_spaced_of_some (h : first.run text cs = some (pairs, rest)) :
    (spaced first second).run text cs =
      (second.run text (skip rest)).map fun m => (pairs ++ m.1, m.2) := by
  rw [spaced, run_seq_of_some h, run_seq_of_silent (run_gap rest)]

theorem skip_skip (cs : List Char) : skip (skip cs) = skip cs := by
  by_cases ends : AtEnd (skip cs)
  · rw [skip_of_closes ends.closes, ends.behindLine_eq]
  · obtain ⟨bs, blanks, whole⟩ := exists_blanks_of_not_atEnd ends
    conv_rhs => rw [whole, skip_append blanks]

variable (text) in
/-- Rounds with a gap before each of them, from a place where a gap makes no difference. -/
theorem run_rounds (shorter : ∀ cs pairs rest, e.run text (skip cs) = some (pairs, rest) →
      rest.length < cs.length) (cs : List Char) :
    ∃ behind, skip behind = skip (repeated ((Peg.seq gap e).run text) cs).2 ∧
      (rounds e).run text (skip cs) =
        some ((repeated ((Peg.seq gap e).run text) cs).1, behind) := by
  have round (cs : List Char) : (Peg.seq gap e).run text cs = e.run text (skip cs) :=
    run_seq_of_silent (run_gap cs)
  cases first : e.run text (skip cs) with
  | none =>
    rw [repeated_of_none ((round cs).trans first)]
    refine ⟨skip cs, skip_skip cs, ?_⟩
    rw [rounds, Peg.run, run_seq_of_none first]
    rfl
  | some m =>
    obtain ⟨pairs, rest⟩ := m
    rw [repeated_of_some ((round cs).trans first) (shorter cs pairs rest first)]
    refine ⟨_, rfl, ?_⟩
    rw [rounds, Peg.run, run_seq_of_some first]
    rfl

end Gaps

section Edges

variable (text) in
theorem run_digits (cs : List Char) : (Peg.seq digit (.many digit)).run text cs =
    if (Numeral.digits cs).isEmpty then none else some ([], cs.dropWhile Char.isDigit) := by
  have many (cs : List Char) :
      (Peg.many digit).run text cs = some ([], cs.dropWhile Char.isDigit) := by
    rw [Peg.run, repeated_one rfl fun _ _ => rfl]
  cases cs with
  | nil => rfl
  | cons c cs =>
    by_cases isDigit : c.isDigit = true
    · have first : digit.run text (c :: cs) = some ([], cs) := if_pos isDigit
      rw [run_seq_of_silent first, many, Numeral.digits, List.takeWhile_cons_of_pos isDigit,
        List.dropWhile_cons_of_pos isDigit]
      rfl
    · have first : digit.run text (c :: cs) = none := if_neg isDigit
      rw [run_seq_of_none first, Numeral.digits, List.takeWhile_cons_of_neg isDigit]
      rfl

theorem run_rule {name : Rule} {e : Peg} {cs rest : List Char} {pairs : List Pair}
    (h : e.run text cs = some (pairs, rest)) :
    (Peg.rule name e).run text cs =
      some ([.matched name (cs.take (cs.length - rest.length)) cs pairs], rest) := by
  rw [Peg.run, h]
  rfl

theorem run_rule_of_none {name : Rule} {e : Peg} {cs : List Char} (h : e.run text cs = none) :
    (Peg.rule name e).run text cs = none := by
  rw [Peg.run, h]
  rfl

theorem run_int (cs : List Char) :
    int.run text cs = (Numeral.read? cs).map fun m => ([m.1.pair], m.2) := by
  have inner := (run_seq_of_silent (run_optional_char '-' cs)).trans
    (run_digits text (if cs.head? = some '-' then cs.tail else cs))
  have signed : (if cs.head? = some '-' then ['-'] else []) ++
      (if cs.head? = some '-' then cs.tail else cs) = cs := by
    split
    · next minus =>
      obtain ⟨unsigned, rfl⟩ := List.head?_eq_some_iff.mp minus
      rfl
    · rfl
  unfold Numeral.read?
  dsimp only
  generalize (if cs.head? = some '-' then cs.tail else cs) = unsigned at inner signed ⊢
  generalize (if cs.head? = some '-' then ['-'] else []) = sign at signed ⊢
  by_cases none : (Numeral.digits unsigned).isEmpty = true
  · rw [if_pos none] at inner ⊢
    exact run_rule_of_none inner
  · rw [if_neg none] at inner ⊢
    have lexeme : cs.take (cs.length - (unsigned.dropWhile Char.isDigit).length) =
        sign ++ Numeral.digits unsigned := by
      have whole : sign ++ Numeral.digits unsigned ++ unsigned.dropWhile Char.isDigit = cs := by
        rw [List.append_assoc, Numeral.digits, List.takeWhile_append_dropWhile, signed]
      rw [← whole, List.length_append, Nat.add_sub_cancel, List.take_left']
      rfl
    exact (run_rule inner).trans (by rw [lexeme]; rfl)

theorem run_edge (cs : List Char) :
    edge.run text cs = (Numeral.read? cs).bind fun m =>
      (Numeral.read? (skipSeparator m.2)).map fun m' =>
        ([.matched .edge (cs.take (cs.length - m'.2.length)) cs [m.1.pair, m'.1.pair]], m'.2) := by
  cases first : Numeral.read? cs with
  | none =>
    have failed : int.run text cs = none := by rw [run_int, first]; rfl
    exact run_rule_of_none (run_seq_of_none failed)
  | some m =>
    obtain ⟨src, rest⟩ := m
    have read : int.run text cs = some ([src.pair], rest) := by rw [run_int, first]; rfl
    have behind : (spaced (.optional (.chars [','])) int).run text (skip rest) =
        (Numeral.read? (skipSeparator rest)).map fun m => ([m.1.pair], m.2) := by
      rw [run_spaced_of_some (run_optional_char ',' (skip rest)), run_int, Option.map_map]
      rfl
    have inner := (run_spaced_of_some read).trans (congrArg _ behind)
    cases second : Numeral.read? (skipSeparator rest) with
    | none =>
      rw [second] at inner
      rw [Option.bind_some, second]
      exact run_rule_of_none inner
    | some m' =>
      rw [second] at inner
      rw [Option.bind_some, second]
      exact run_rule inner

end Edges

section Lines

theorem entries?_append {pairs more : List Pair} {entries : List Entry}
    (h : entries? pairs = some entries) :
    entries? (pairs ++ more) = (entries? more).map (entries ++ ·) := by
  unfold entries? at h ⊢
  obtain ⟨front, read, rfl⟩ := Option.map_eq_some_iff.mp h
  rw [List.mapM_append, read, Option.bind_eq_bind, Option.bind_some]
  cases more.mapM Pair.entries? with
  | none => rfl
  | some rest => simp

/-- A line up to its end. -/
abbrev line : Peg := spaced (.optional edge) newline

/-- What is left behind the last line end. -/
abbrev lastLine : Peg := spaced (.optional edge) (.rule .endOfInput .ending)

variable {cs rest : List Char} {held : Option Entry} {misfit : Misfit} {e : Peg}

variable (text) in
/-- Where the scanner reads an entry or nothing, so does the grammar, and it stops at the same place. -/
theorem run_line_of_ok (h : entry cs = .ok (held, rest)) :
    ∃ pairs, entries? pairs = some held.toList ∧ ∀ e : Peg,
      (spaced (.optional edge) e).run text (skip cs) =
        (e.run text rest).map fun m => (pairs ++ m.1, m.2) := by
  rw [entry_eq] at h
  cases first : Numeral.read? (skip cs) with
  | none =>
    rw [first] at h
    obtain ⟨rfl, rfl⟩ := Prod.mk.inj (Except.ok.inj h)
    have none : (Peg.optional edge).run text (skip cs) = some ([], skip cs) := by
      rw [Peg.run, run_edge, first]
      rfl
    refine ⟨[], rfl, fun e => ?_⟩
    rw [run_spaced_of_some none, skip_skip]
  | some m =>
    obtain ⟨src, between⟩ := m
    rw [first] at h
    dsimp only at h
    cases second : Numeral.read? (skipSeparator between) with
    | none =>
      rw [second] at h
      cases h
    | some m' =>
      obtain ⟨dst, behind⟩ := m'
      rw [second] at h
      obtain ⟨rfl, rfl⟩ := Prod.mk.inj (Except.ok.inj h)
      have some : (Peg.optional edge).run text (skip cs) =
          some ([.matched .edge ((skip cs).take ((skip cs).length - behind.length)) (skip cs)
            [src.pair, dst.pair]], behind) := by
        rw [Peg.run, run_edge, first, Option.bind_some, second]
        rfl
      exact ⟨_, rfl, fun e => run_spaced_of_some some⟩

variable (text) in
/-- A line that goes wrong in its middle is no edge, and it ends nowhere near. -/
theorem run_line_of_error (h : entry cs = .error misfit) (e : Peg) :
    ¬ AtEnd (skip cs) ∧ (spaced (.optional edge) e).run text (skip cs) = e.run text (skip cs) := by
  rw [entry_eq] at h
  cases first : Numeral.read? (skip cs) with
  | none =>
    rw [first] at h
    cases h
  | some m =>
    obtain ⟨src, between⟩ := m
    rw [first] at h
    dsimp only at h
    cases second : Numeral.read? (skipSeparator between) with
    | some m' =>
      rw [second] at h
      cases h
    | none =>
      have none : (Peg.optional edge).run text (skip cs) = some ([], skip cs) := by
        rw [Peg.run, run_edge, first, Option.bind_some, second]
        rfl
      refine ⟨Numeral.not_atEnd_of_read? first, ?_⟩
      rw [run_spaced_of_some none, skip_skip]
      exact Option.map_id'

theorem run_newline_of_not_atEnd (h : ¬ AtEnd cs) : newline.run text cs = none := by
  rw [run_newline]
  cases next : lineEnd? cs with
  | none => rfl
  | some more => exact absurd (atEnd_of_lineEnd? next) h

theorem length_lt_of_run_line {pairs : List Pair} (h : line.run text (skip cs) = some (pairs, rest)) :
    rest.length < cs.length := by
  cases read : entry cs with
  | error misfit =>
    obtain ⟨going, run⟩ := run_line_of_error text read newline
    rw [run, run_newline_of_not_atEnd going] at h
    cases h
  | ok m =>
    obtain ⟨held, behind⟩ := m
    obtain ⟨_, -, run⟩ := run_line_of_ok text read
    rw [run, run_newline, Option.map_map] at h
    obtain ⟨more, next, same⟩ := Option.map_eq_some_iff.mp h
    obtain ⟨-, rfl⟩ := Prod.mk.inj same
    exact Nat.lt_of_lt_of_le (lineEnd?_length_lt next) (entry_length_le read)

theorem run_end (cs : List Char) : (Peg.rule .endOfInput .ending).run text cs =
    if cs.isEmpty then some ([.matched .endOfInput [] cs []], cs) else none := by
  cases cs with
  | nil => rfl
  | cons c cs => rfl

/-- The entries of the lines that the repetition takes and of the last line behind them. -/
def remaining (text cs : List Char) : Option (List Entry) :=
  let rounds := repeated ((Peg.seq gap line).run text) cs
  (lastLine.run text (skip rounds.2)).bind fun last => entries? (rounds.1 ++ last.1)

theorem remaining_of_round {pairs : List Pair} {entries : List Entry}
    (round : (Peg.seq gap line).run text cs = some (pairs, rest))
    (shorter : rest.length < cs.length) (held : entries? pairs = some entries) :
    remaining text cs = (remaining text rest).map (entries ++ ·) := by
  simp only [remaining, repeated_of_some round shorter, List.append_assoc, entries?_append held]
  rw [Option.map_bind]
  rfl

theorem remaining_of_none (round : (Peg.seq gap line).run text cs = none) :
    remaining text cs = (lastLine.run text (skip cs)).bind fun last => entries? last.1 := by
  simp only [remaining, repeated_of_none round, List.nil_append]

variable (text) in
/-- Without a line end behind it a line is the last one, and the text has to end there. -/
theorem remaining_of_last (read : entry cs = .ok (held, rest)) (last : lineEnd? rest = none) :
    remaining text cs = if rest.isEmpty then some held.toList else none := by
  obtain ⟨pairs, holds, run⟩ := run_line_of_ok text read
  have none : line.run text (skip cs) = none := by
    rw [run, run_newline, last]
    rfl
  rw [remaining_of_none ((run_seq_of_silent (run_gap cs)).trans none), run, run_end]
  split
  · rw [Option.map_some, Option.bind_some, entries?_append holds]
    simp [entries?, Pair.entries?]
  · rfl

theorem reverse_toList_append (held : Option Entry) (done : List Entry) :
    (held.toList ++ done).reverse = done.reverse ++ held.toList := by
  cases held <;> simp

variable (text) in
/-- What the scanner makes of the lines is what the grammar makes of them. -/
theorem scanFrom_toOption (done : List Entry) (cs : List Char) :
    (scanFrom done cs).toOption = (remaining text cs).map (done.reverse ++ ·) := by
  have round (cs : List Char) : (Peg.seq gap line).run text cs = line.run text (skip cs) :=
    run_seq_of_silent (run_gap cs)
  fun_induction scanFrom done cs with
  | case1 done cs misfit read =>
    obtain ⟨going, run⟩ := run_line_of_error text read newline
    have none : line.run text (skip cs) = none := run.trans (run_newline_of_not_atEnd going)
    rw [remaining_of_none ((round cs).trans none), (run_line_of_error text read _).2, run_end, if_neg]
    · rfl
    · intro empty
      exact going (by rw [List.isEmpty_iff.mp empty]; exact fun c hc => by cases hc)
  | case2 done cs e rest read passed more next ih =>
    obtain ⟨pairs, held, run⟩ := run_line_of_ok text read
    have first : line.run text (skip cs) = some (pairs ++ [], more) := by
      rw [run, run_newline, next]
      rfl
    rw [List.append_nil] at first
    rw [ih, remaining_of_round ((round cs).trans first) (length_lt_of_run_line first) held, Option.map_map,
      reverse_toList_append]
    congr 1
    funext entries
    exact List.append_assoc _ _ _
  | case3 done cs e rest read passed last empty =>
    rw [remaining_of_last text read last, if_pos empty, reverse_toList_append]
    rfl
  | case4 done cs e rest read last going =>
    rw [remaining_of_last text read last, if_neg going]
    rfl

end Lines

/-- The scanner accepts the texts of the grammar, and no others, and reads the same entries in them. -/
theorem read?_eq_scan (text : List Char) : Grammar.read? text = (scan text).toOption := by
  have begins : Peg.beginning.run text text = some ([], text) := if_pos rfl
  obtain ⟨behind, same, taken⟩ := run_rounds text (e := line)
    (fun _ _ _ => length_lt_of_run_line) text
  have whole : edgeList.run text text = (lastLine.run text (skip behind)).map fun m =>
      ((repeated ((Peg.seq gap line).run text) text).1 ++ m.1, m.2) := by
    rw [edgeList, run_spaced_of_some begins, run_spaced_of_some taken, Option.map_map]
    rfl
  have entries : Grammar.read? text = remaining text text := by
    rw [Grammar.read?, whole, remaining, same]
    cases lastLine.run text (skip (repeated ((Peg.seq gap line).run text) text).2) with
    | none => rfl
    | some last => rfl
  rw [scan, scanFrom_toOption text, entries]
  exact Option.map_id'.symm

end Grammar

end Motif.EdgeList
