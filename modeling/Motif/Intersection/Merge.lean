import Motif.Access

/-!
Counting the elements two ascending arrays share, by a merge that compares whole blocks at first
and single elements at last. The merge is a sequence of loops which hand one cursor from each to
the next; a loop is its turn, together with a proof that a turn which goes round again leaves
less to merge.

Arrays that are not ascending are counted too, as the comparisons happen to fall: every read is
checked, and none is out of range.
-/

set_option autoImplicit false

namespace Motif.Intersection

/-- How far a merge has come in both arrays, and what it has counted. -/
structure Cursor where
  i : Nat
  j : Nat
  total : Nat
deriving DecidableEq

namespace Cursor

def start : Cursor := ⟨0, 0, 0⟩

def swap (c : Cursor) : Cursor := ⟨c.j, c.i, c.total⟩

/-- How many elements of both sides are still to be merged. -/
def left (c : Cursor) (nu nv : Nat) : Nat := (nu - c.i) + (nv - c.j)

@[simp] theorem left_swap (c : Cursor) (nu nv : Nat) : c.swap.left nv nu = c.left nu nv := by
  simp only [left, swap]
  omega

end Cursor

/-- What a turn of a loop ends in: another turn, the next loop, or the end of the merge. -/
inductive Turn where
  | again (c : Cursor)
  | leave
  | finish

def Turn.swap : Turn → Turn
  | .again c => .again c.swap
  | .leave => .leave
  | .finish => .finish

/-- Counts how many elements of the first block occur in the second; both have as many elements
as there are lanes. -/
abbrev Kernel (α : Type) := Array α → Array α → Except Error Nat

section Turns

variable {α : Type} [LT α] [DecidableLT α] [DecidableEq α]

/-- Compares a block of `u` with a block of `v` and passes the block that ends first, or both.
A block that lies wholly before the other is passed without comparing, unless the other side
starts after the last element of its array: then nothing more is shared. -/
def blockTurn (lanes : Nat) (kernel : Kernel α) (u v : Array α) (c : Cursor) :
    Except Error Turn :=
  if c.i + lanes ≤ u.size ∧ c.j + lanes ≤ v.size then do
    let minU ← read u c.i
    let maxV ← read v (c.j + lanes - 1)
    if maxV < minU then
      let lastV ← read v (v.size - 1)
      if lastV < minU then .ok .finish
      else .ok (.again { c with j := c.j + lanes })
    else
      let minV ← read v c.j
      let maxU ← read u (c.i + lanes - 1)
      if maxU < minV then
        let lastU ← read u (u.size - 1)
        if lastU < minV then .ok .finish
        else .ok (.again { c with i := c.i + lanes })
      else
        let blockU ← slice u c.i (c.i + lanes)
        let blockV ← slice v c.j (c.j + lanes)
        let total := c.total + (← kernel blockU blockV)
        if maxU < maxV then .ok (.again ⟨c.i + lanes, c.j, total⟩)
        else if maxV < maxU then .ok (.again ⟨c.i, c.j + lanes, total⟩)
        else .ok (.again ⟨c.i + lanes, c.j + lanes, total⟩)
  else .ok .leave

/-- Counts `x` if the block holds it. -/
def credit (block : Array α) (x : α) (total : Nat) : Nat :=
  if x ∈ block then total + 1 else total

/-- Walks `v` from `j` up to the last element of a block, adding to `total` the elements that
the block holds. -/
def walk (block : Array α) (last : α) (v : Array α) (j total : Nat) : Nat × Nat :=
  if h : j < v.size then
    if last < v[j] then (j, total)
    else walk block last v (j + 1) (credit block v[j] total)
  else (j, total)
termination_by v.size - j

/-- Walks the elements of `v` along one full block of `u`. -/
def alongTurn (lanes : Nat) (u v : Array α) (c : Cursor) : Except Error Turn :=
  if c.i + lanes ≤ u.size ∧ c.j < v.size then do
    let block ← slice u c.i (c.i + lanes)
    let last ← read block (lanes - 1)
    let walked := walk block last v c.j c.total
    .ok (.again ⟨c.i + lanes, walked.1, walked.2⟩)
  else .ok .leave

/-- Compares one element of each side. -/
def scalarTurn (u v : Array α) (c : Cursor) : Except Error Turn :=
  if c.i < u.size ∧ c.j < v.size then do
    let x ← read u c.i
    let y ← read v c.j
    let lastU ← read u (u.size - 1)
    let lastV ← read v (v.size - 1)
    if lastV < x ∨ lastU < y then .ok .finish
    else if x = y then .ok (.again ⟨c.i + 1, c.j + 1, c.total + 1⟩)
    else if x < y then .ok (.again { c with i := c.i + 1 })
    else .ok (.again { c with j := c.j + 1 })
  else .ok .leave

omit [DecidableEq α] in
theorem blockTurn_left {lanes : Nat} (hl : 0 < lanes) {kernel : Kernel α} {u v : Array α}
    {c d : Cursor} (h : blockTurn lanes kernel u v c = .ok (.again d)) :
    d.left u.size v.size < c.left u.size v.size := by
  unfold blockTurn at h
  split at h
  case isFalse => simp at h
  case isTrue hc =>
    obtain ⟨minU, _, h⟩ := bind_eq_ok.1 h
    obtain ⟨maxV, _, h⟩ := bind_eq_ok.1 h
    split at h
    · obtain ⟨lastV, _, h⟩ := bind_eq_ok.1 h
      split at h
      · simp at h
      · simp only [Except.ok.injEq, Turn.again.injEq] at h
        subst h
        simp only [Cursor.left]
        omega
    · obtain ⟨minV, _, h⟩ := bind_eq_ok.1 h
      obtain ⟨maxU, _, h⟩ := bind_eq_ok.1 h
      split at h
      · obtain ⟨lastU, _, h⟩ := bind_eq_ok.1 h
        split at h
        · simp at h
        · simp only [Except.ok.injEq, Turn.again.injEq] at h
          subst h
          simp only [Cursor.left]
          omega
      · obtain ⟨blockU, _, h⟩ := bind_eq_ok.1 h
        obtain ⟨blockV, _, h⟩ := bind_eq_ok.1 h
        obtain ⟨matched, _, h⟩ := bind_eq_ok.1 h
        split at h
        · simp only [Except.ok.injEq, Turn.again.injEq] at h
          subst h
          simp only [Cursor.left]
          omega
        · split at h <;>
          · simp only [Except.ok.injEq, Turn.again.injEq] at h
            subst h
            simp only [Cursor.left]
            omega

theorem le_walk {block : Array α} {last : α} {v : Array α} {j total : Nat} :
    j ≤ (walk block last v j total).1 := by
  fun_induction walk block last v j total with
  | case1 => exact Nat.le_refl _
  | case2 j total h hlt ih => omega
  | case3 => exact Nat.le_refl _

theorem alongTurn_left {lanes : Nat} (hl : 0 < lanes) {u v : Array α} {c d : Cursor}
    (h : alongTurn lanes u v c = .ok (.again d)) :
    d.left u.size v.size < c.left u.size v.size := by
  unfold alongTurn at h
  split at h
  case isFalse => simp at h
  case isTrue hc =>
    obtain ⟨block, _, h⟩ := bind_eq_ok.1 h
    obtain ⟨last, _, h⟩ := bind_eq_ok.1 h
    simp only [Except.ok.injEq, Turn.again.injEq] at h
    subst h
    have : c.j ≤ (walk block last v c.j c.total).1 := le_walk
    simp only [Cursor.left]
    omega

theorem scalarTurn_left {u v : Array α} {c d : Cursor}
    (h : scalarTurn u v c = .ok (.again d)) :
    d.left u.size v.size < c.left u.size v.size := by
  unfold scalarTurn at h
  split at h
  case isFalse => simp at h
  case isTrue hc =>
    obtain ⟨x, _, h⟩ := bind_eq_ok.1 h
    obtain ⟨y, _, h⟩ := bind_eq_ok.1 h
    obtain ⟨lastU, _, h⟩ := bind_eq_ok.1 h
    obtain ⟨lastV, _, h⟩ := bind_eq_ok.1 h
    split at h
    · simp at h
    · split at h
      · simp only [Except.ok.injEq, Turn.again.injEq] at h
        subst h
        simp only [Cursor.left]
        omega
      · split at h <;>
        · simp only [Except.ok.injEq, Turn.again.injEq] at h
          subst h
          simp only [Cursor.left]
          omega

end Turns

/-- A loop of the merge of `u` and `v`: each turn that goes round again leaves less to merge. -/
structure Loop {α : Type} (u v : Array α) where
  turn : Cursor → Except Error Turn
  progress : ∀ {c d : Cursor}, turn c = .ok (.again d) →
    d.left u.size v.size < c.left u.size v.size

namespace Loop

variable {α : Type} {u v : Array α}

/-- Turns until the loop is left; also says whether the merge goes on. -/
def run (loop : Loop u v) (c : Cursor) : Except Error (Cursor × Bool) :=
  match _h : loop.turn c with
  | .error e => .error e
  | .ok .leave => .ok (c, true)
  | .ok .finish => .ok (c, false)
  | .ok (.again d) => loop.run d
termination_by c.left u.size v.size
decreasing_by exact loop.progress _h

/-- Runs loops one after the other, until one ends the merge. -/
def runAll : List (Loop u v) → Cursor → Except Error Cursor
  | [], c => .ok c
  | loop :: loops, c => do
    let (d, goesOn) ← loop.run c
    if goesOn then runAll loops d else .ok d

variable [LT α] [DecidableLT α] [DecidableEq α]

def blocks (u v : Array α) {lanes : Nat} (hl : 0 < lanes) (kernel : Kernel α) : Loop u v where
  turn := blockTurn lanes kernel u v
  progress := blockTurn_left hl

/-- Walks `v` along the full blocks that `u` has left. -/
def alongU (u v : Array α) {lanes : Nat} (hl : 0 < lanes) : Loop u v where
  turn := alongTurn lanes u v
  progress := alongTurn_left hl

theorem swap_alongTurn_left {lanes : Nat} (hl : 0 < lanes) {c d : Cursor}
    (h : (alongTurn lanes v u c.swap).map Turn.swap = .ok (.again d)) :
    d.left u.size v.size < c.left u.size v.size := by
  cases ht : alongTurn lanes v u c.swap with
  | error e => simp [ht, Except.map] at h
  | ok turn =>
    cases turn with
    | again e =>
      have := alongTurn_left hl ht
      simp only [ht, Except.map, Turn.swap, Except.ok.injEq, Turn.again.injEq] at h
      subst h
      simpa using this
    | leave => simp [ht, Except.map, Turn.swap] at h
    | finish => simp [ht, Except.map, Turn.swap] at h

/-- Walks `u` along the full blocks that `v` has left. -/
def alongV (u v : Array α) {lanes : Nat} (hl : 0 < lanes) : Loop u v where
  turn := fun c => (alongTurn lanes v u c.swap).map Turn.swap
  progress := swap_alongTurn_left hl

def scalar (u v : Array α) : Loop u v where
  turn := scalarTurn u v
  progress := scalarTurn_left

end Loop

/-- Counts by single comparisons alone, and stops as soon as the current element of one array
is above the last element of the other. -/
def scalarSize {α : Type} [LT α] [DecidableLT α] [DecidableEq α] (u v : Array α) :
    Except Error Nat := do
  let (c, _) ← (Loop.scalar u v).run .start
  return c.total

end Motif.Intersection
