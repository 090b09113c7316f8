import Mathlib
import Motif.EdgeList.Parse
import Motif.Proofs.EdgeList.Entry
import Motif.Proofs.Sequence

/-!
# Parsing edge lists

Every turn of the scanner passes one line of the text. Passing lines as long as a line end follows,
it comes to the end of the text exactly when each of them is a line of the format, and it holds the
edges of those lines then. Ids are checked afterwards, so it makes no difference to the outcome in
which line one is out of range.
-/

set_option autoImplicit false

namespace Motif.EdgeList

section Scan

theorem atEnd_of_lineEnd? {rest more : List Char} (h : lineEnd? rest = some more) :
    AtEnd rest := by
  intro c hc
  obtain ⟨cs, rfl⟩ := List.head?_eq_some_iff.mp hc
  unfold lineEnd? at h
  split at h
  next heq => rw [(List.cons.inj heq).1]; rfl
  next heq => rw [(List.cons.inj heq).1]; rfl
  next heq => rw [(List.cons.inj heq).1]; rfl
  next => cases h

theorem exists_behind_lineEnd {c : Char} (ending : isLineEnd c = true) (cs : List Char) :
    ∃ more, lineEnd? (c :: cs) = some more := by
  rcases isLineEnd_iff.mp ending with rfl | rfl
  · exact ⟨cs, rfl⟩
  · by_cases feed : ∃ rest, cs = '\n' :: rest
    · obtain ⟨rest, rfl⟩ := feed
      exact ⟨rest, rfl⟩
    · exact ⟨cs, lineEnd?_return fun rest same => feed ⟨rest, same⟩⟩

theorem eq_nil_of_atEnd {rest : List Char} (ends : AtEnd rest) (last : lineEnd? rest = none) :
    rest = [] := by
  cases rest with
  | nil => rfl
  | cons c cs =>
    obtain ⟨more, next⟩ := exists_behind_lineEnd (ends c rfl) cs
    rw [last] at next
    cases next

theorem uncommented_lines {line tail : List Char} (visible : ∀ c ∈ line, Visible c)
    (closes : Closes tail) :
    (lines (line ++ tail)).map uncommented = line ::
      match lineEnd? (behindLine tail) with
      | some more => (lines more).map uncommented
      | none => [] := by
  rw [lines_eq, List.map_cons, uncommented_first visible closes, behindLine_append visible]
  cases lineEnd? (behindLine tail) <;> rfl

theorem scanFrom_eq (done : List Entry) (cs : List Char) :
    scanFrom done cs = match entry cs with
      | .error misfit => .error misfit
      | .ok (e, rest) =>
        match lineEnd? rest with
        | some more => scanFrom (e.toList ++ done) more
        | none =>
          if rest.isEmpty then .ok (e.toList ++ done).reverse
          else .error ⟨rest, if e.isSome then .expectedEnd else .expectedEndOrInteger⟩ := by
  rw [scanFrom]
  split <;> rename_i read <;> rw [read]
  dsimp only
  split <;> rename_i next <;> rw [next]

theorem ids_step (e : Option Entry) (done : List Entry) (held : List (Option Edge)) :
    (e.toList ++ done).reverse.map Entry.ids ++ held.reduceOption =
      done.reverse.map Entry.ids ++ (e.map Entry.ids :: held).reduceOption := by
  cases e <;> simp

/-- A scan passes lines of the format, and its entries write the edges of these. -/
theorem lines_of_scanFrom {done entries : List Entry} {cs : List Char}
    (h : scanFrom done cs = .ok entries) :
    ∃ held, List.Forall₂ Line ((lines cs).map uncommented) held ∧
      entries.map Entry.ids = done.reverse.map Entry.ids ++ held.reduceOption := by
  fun_induction scanFrom done cs generalizing entries
  case case1 => cases h
  case case2 done cs e rest read passed more next ih =>
    obtain ⟨line, tail, rfl, closes, rfl, isLine⟩ := line_of_entry read (atEnd_of_lineEnd? next)
    obtain ⟨held, later, written⟩ := ih h
    refine ⟨e.map Entry.ids :: held, ?_, ?_⟩
    · rw [uncommented_lines isLine.visible closes, next]
      exact List.Forall₂.cons isLine later
    · rw [written]
      exact ids_step e done held
  case case3 done cs e rest read passed last empty =>
    have ends : AtEnd rest := by
      rw [List.isEmpty_iff.mp empty]
      intro c hc
      cases hc
    obtain ⟨line, tail, rfl, closes, rfl, isLine⟩ := line_of_entry read ends
    refine ⟨[e.map Entry.ids], ?_, ?_⟩
    · rw [uncommented_lines isLine.visible closes, last]
      exact List.Forall₂.cons isLine List.Forall₂.nil
    · obtain rfl := Except.ok.inj h
      have := ids_step e done []
      rwa [List.reduceOption_nil, List.append_nil] at this
  case case4 => cases h

theorem scanFrom_of_lines {held : List (Option Edge)} {cs : List Char} (done : List Entry)
    (h : List.Forall₂ Line ((lines cs).map uncommented) held) :
    ∃ entries, scanFrom done cs = .ok entries ∧
      entries.map Entry.ids = done.reverse.map Entry.ids ++ held.reduceOption := by
  -- what the lines hold grows shorter by one with every turn of the scanner
  induction held generalizing cs done with
  | nil =>
    rw [lines_eq] at h
    nomatch h
  | cons head held ih =>
    obtain ⟨line, tail, rfl, visible, closes⟩ := exists_first cs
    rw [uncommented_lines visible closes] at h
    obtain ⟨isLine, later⟩ := List.forall₂_cons.mp h
    obtain ⟨e, read, rfl⟩ := entry_of_line isLine closes
    rw [scanFrom_eq, read]
    dsimp only
    cases next : lineEnd? (behindLine tail) with
    | some more =>
      rw [next] at later
      obtain ⟨entries, run, written⟩ := ih (e.toList ++ done) later
      refine ⟨entries, run, ?_⟩
      rw [written]
      exact ids_step e done held
    | none =>
      rw [next] at later
      obtain rfl := List.forall₂_nil_left_iff.mp later
      have whole := eq_nil_of_atEnd (atEnd_behindLine tail) next
      refine ⟨(e.toList ++ done).reverse, if_pos (List.isEmpty_iff.mpr whole), ?_⟩
      have := ids_step e done []
      rwa [List.reduceOption_nil, List.append_nil] at this

end Scan

section Ids

theorem withinRange_iff {id : Int} : WithinRange id ↔ smallestId ≤ id ∧ id ≤ largestId := by
  norm_num [WithinRange, smallestId, largestId]

theorem Numeral.id_eq_ok {text : List Char} {n : Numeral} {x : Int} :
    n.id text = .ok x ↔ WithinRange n.value ∧ n.value = x := by
  rw [withinRange_iff]
  unfold Numeral.id
  split <;> simp_all

theorem Numeral.category?_of_id {text : List Char} {n : Numeral} {e : Error}
    (h : n.id text = .error e) : e.category? = some .parse := by
  unfold Numeral.id at h
  split at h
  · cases h
  · cases h
    rfl

theorem Entry.edge_eq_ok {text : List Char} {e : Entry} {x : Edge} :
    e.edge text = .ok x ↔ (WithinRange e.ids.1 ∧ WithinRange e.ids.2) ∧ e.ids = x := by
  simp only [Entry.edge, bind_eq_ok, Numeral.id_eq_ok, pure_eq_ok, Except.ok.injEq]
  constructor
  · rintro ⟨_, ⟨src, rfl⟩, _, ⟨dst, rfl⟩, rfl⟩
    exact ⟨⟨src, dst⟩, rfl⟩
  · rintro ⟨⟨src, dst⟩, rfl⟩
    exact ⟨_, ⟨src, rfl⟩, _, ⟨dst, rfl⟩, rfl⟩

theorem Entry.category?_of_edge {text : List Char} {e : Entry} {err : Error}
    (h : e.edge text = .error err) : err.category? = some .parse := by
  unfold Entry.edge at h
  cases src : e.src.id text with
  | error err' =>
    rw [src] at h
    cases h
    exact Numeral.category?_of_id src
  | ok x =>
    cases dst : e.dst.id text with
    | error err' =>
      rw [src, dst] at h
      cases h
      exact Numeral.category?_of_id dst
    | ok y =>
      rw [src, dst] at h
      cases h

/-- Entries become the edges that they write if all their ids are within range. -/
theorem edges_eq_ok {text : List Char} {entries : List Entry} {edges : List Edge} :
    entries.mapM (Entry.edge text) = .ok edges ↔
      entries.map Entry.ids = edges ∧ ∀ e ∈ edges, WithinRange e.1 ∧ WithinRange e.2 := by
  rw [mapM_eq_ok_iff]
  simp only [Entry.edge_eq_ok]
  constructor
  · intro related
    induction related with
    | nil => simp
    | cons first _ ih =>
      obtain ⟨within, rfl⟩ := first
      obtain ⟨rfl, later⟩ := ih
      exact ⟨rfl, List.forall_mem_cons.mpr ⟨within, later⟩⟩
  · rintro ⟨rfl, within⟩
    rw [List.forall₂_map_right_iff, List.forall₂_same]
    intro e he
    exact ⟨within _ (List.mem_map_of_mem he), rfl⟩

end Ids

section Texts

theorem parse_eq_ok {text : List Char} {edges : List Edge} :
    parse text = .ok edges ↔
      ∃ entries, scan text = .ok entries ∧ entries.mapM (Entry.edge text) = .ok edges := by
  unfold parse
  cases scan text <;> simp

theorem category?_of_parse {text : List Char} {e : Error} (h : parse text = .error e) :
    e.category? = some .parse := by
  unfold parse at h
  cases scanned : scan text with
  | error misfit =>
    rw [scanned] at h
    cases h
    rfl
  | ok entries =>
    rw [scanned] at h
    obtain ⟨entry, _, failed⟩ := exists_of_mapM_error h
    exact Entry.category?_of_edge failed

theorem parse_eq_ok_iff_written {text : List Char} {edges : List Edge} :
    parse text = .ok edges ↔ Written text edges := by
  rw [parse_eq_ok]
  constructor
  · rintro ⟨entries, scanned, checked⟩
    obtain ⟨rfl, within⟩ := edges_eq_ok.mp checked
    obtain ⟨held, isLines, written⟩ := lines_of_scanFrom scanned
    exact ⟨held, isLines, written.symm, within⟩
  · rintro ⟨held, isLines, rfl, within⟩
    obtain ⟨entries, scanned, written⟩ := scanFrom_of_lines [] isLines
    exact ⟨entries, scanned, edges_eq_ok.mpr ⟨written, within⟩⟩

/-- A text is accepted exactly if it is in the format, with the edges of its lines, and any other
text is refused as one that does not parse. -/
theorem ofString_accepts_format (text : String) :
    (∀ edges, ofString text = .ok edges ↔ Written text.toList edges) ∧
      ((∃ e, ofString text = .error e ∧ e.category? = some .parse) ↔
        ¬∃ edges, Written text.toList edges) := by
  refine ⟨fun edges => parse_eq_ok_iff_written, ?_⟩
  constructor
  · rintro ⟨e, refused, _⟩ ⟨edges, written⟩
    rw [ofString, parse_eq_ok_iff_written.mpr written] at refused
    cases refused
  · intro unwritten
    cases result : ofString text with
    | ok edges => exact absurd ⟨edges, parse_eq_ok_iff_written.mp result⟩ unwritten
    | error e => exact ⟨e, rfl, category?_of_parse result⟩

example : ofString "0 1\r2,-3 # two\r\n \n4-5" = .ok [(0, 1), (2, -3), (4, -5)] := by cbv

end Texts

end Motif.EdgeList
