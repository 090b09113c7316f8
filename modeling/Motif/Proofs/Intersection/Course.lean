import Motif.Proofs.Intersection.Strategy

/-!
# The course of a merge

A merge goes from cursor to cursor, turn by turn and loop by loop. On arrays in any order its
comparisons mean nothing, yet no turn leaves the arrays, because each passes what it has found to be
there, and none counts more than it passes. So a merge of any two arrays ends, and what it has counted
by then is bounded by what it has passed.
-/

set_option autoImplicit false

namespace Motif.Intersection

variable {α : Type} {u v : Array α} {c d : Cursor}

namespace Loop

/-- Where a merge through some loops can stand: the loops that it has not left yet, and its
cursor. -/
inductive Reaches (all : List (Loop u v)) : List (Loop u v) → Cursor → Prop where
  | start : Reaches all all .start
  | again {loop : Loop u v} {rest : List (Loop u v)} {c d : Cursor} :
      Reaches all (loop :: rest) c → loop.turn c = .ok (.again d) → Reaches all (loop :: rest) d
  | leave {loop : Loop u v} {rest : List (Loop u v)} {c : Cursor} :
      Reaches all (loop :: rest) c → loop.turn c = .ok .leave → Reaches all rest c

variable {all rest : List (Loop u v)} {loop : Loop u v}

theorem Reaches.suffix (h : Reaches all rest c) : rest <:+ all := by
  induction h with
  | start => exact List.suffix_refl _
  | again _ _ ih => exact ih
  | leave _ _ ih => exact (List.suffix_cons _ _).trans ih

theorem Reaches.mem (h : Reaches all (loop :: rest) c) : loop ∈ all :=
  h.suffix.subset List.mem_cons_self

/-- What every turn that goes round again keeps holds wherever a merge stands. -/
theorem Reaches.invariant {P : Cursor → Prop} (start : P .start)
    (keeps : ∀ loop ∈ all, ∀ c d, P c → loop.turn c = .ok (.again d) → P d)
    (h : Reaches all rest c) : P c := by
  induction h with
  | start => exact start
  | @again loop rest c d before again ih => exact keeps loop before.mem c d ih again
  | leave _ _ ih => exact ih

/-- From wherever it stands, a merge goes on as from its start. -/
theorem Reaches.runAll_eq (h : Reaches all rest c) : runAll rest c = runAll all .start := by
  induction h with
  | start => rfl
  | @again loop rest c d _ again ih =>
    rw [← ih, runAll, runAll, run_eq loop c, again, ok_bind]
  | @leave loop rest c _ left ih =>
    rw [← ih, runAll, run_eq loop c, left, ok_bind, ok_bind]
    exact (if_pos rfl).symm

/-- A run ends with a turn that leaves the loop, or with one that ends the merge. -/
theorem turn_of_run {goesOn : Bool} (ran : loop.run c = .ok (d, goesOn)) :
    loop.turn d = .ok (if goesOn then .leave else .finish) := by
  fun_induction Loop.run loop c with
  | case1 => cases ran
  | case2 c left =>
    obtain ⟨rfl, rfl⟩ := Prod.mk.inj (Except.ok.inj ran)
    exact left
  | case3 c finished =>
    obtain ⟨rfl, rfl⟩ := Prod.mk.inj (Except.ok.inj ran)
    exact finished
  | case4 c e again ih => exact ih ran

section Turning

variable (turns : ∀ {loop rest c}, Reaches all (loop :: rest) c → ∃ t, loop.turn c = .ok t)
include turns

theorem Reaches.exists_run (h : Reaches all (loop :: rest) c) :
    ∃ d goesOn, loop.run c = .ok (d, goesOn) ∧ Reaches all (loop :: rest) d ∧
      (goesOn = true → Reaches all rest d) := by
  fun_induction Loop.run loop c with
  | case1 c e failed =>
    obtain ⟨t, turned⟩ := turns h
    cases failed.symm.trans turned
  | case2 c left => exact ⟨c, true, rfl, h, fun _ => h.leave left⟩
  | case3 c finished => exact ⟨c, false, rfl, h, fun on => absurd on Bool.false_ne_true⟩
  | case4 c d again ih => exact ih (h.again again)

/-- A merge whose turns do not fail ends where it can stand. -/
theorem Reaches.exists_runAll (h : Reaches all rest c) :
    ∃ d rest', runAll rest c = .ok d ∧ Reaches all rest' d := by
  induction rest generalizing c with
  | nil => exact ⟨c, [], rfl, h⟩
  | cons loop rest ih =>
    obtain ⟨d, goesOn, ran, here, next⟩ := h.exists_run turns
    rw [runAll, ran, ok_bind]
    cases goesOn with
    | false => exact ⟨d, loop :: rest, rfl, here⟩
    | true => exact ih (next rfl)

end Turning

end Loop

/-- The cursor lies inside both arrays, and no more has been counted than was passed. -/
structure Cursor.Inside (u v : Array α) (c : Cursor) : Prop where
  first : c.i ≤ u.size
  second : c.j ≤ v.size
  counted : c.total ≤ c.i + c.j

/-- A turn that goes round again stays inside and takes neither side back. -/
def Turn.Stays (u v : Array α) (c : Cursor) : Turn → Prop
  | .again d => d.Inside u v ∧ c.i ≤ d.i ∧ c.j ≤ d.j
  | .leave => True
  | .finish => True

namespace Cursor

theorem inside_start : start.Inside u v := ⟨Nat.zero_le _, Nat.zero_le _, Nat.zero_le _⟩

theorem Inside.swap (h : c.Inside u v) : c.swap.Inside v u :=
  ⟨h.second, h.first, Nat.add_comm c.i c.j ▸ h.counted⟩

/-- What is there may be passed on either side, if no more is counted than is passed. -/
theorem Inside.pass (h : c.Inside u v) {n m count : Nat} (hn : c.i + n ≤ u.size)
    (hm : c.j + m ≤ v.size) (bounded : count ≤ n + m) :
    Turn.Stays u v c (.again ⟨c.i + n, c.j + m, c.total + count⟩) := by
  have := h.counted
  refine ⟨⟨hn, hm, ?_⟩, Nat.le_add_right _ _, Nat.le_add_right _ _⟩
  change c.total + count ≤ (c.i + n) + (c.j + m)
  omega

end Cursor

theorem Turn.Stays.swap {t : Turn} (h : t.Stays v u c.swap) : t.swap.Stays u v c := by
  cases t with
  | again d => exact ⟨h.1.swap, h.2.2, h.2.1⟩
  | leave => trivial
  | finish => trivial

/-- A kernel that counts no more elements than it has lanes. -/
def Bounded (n : Nat) (kernel : Kernel α) : Prop :=
  ∀ a b : Array α, a.size = n → b.size = n → ∃ count, kernel a b = .ok count ∧ count ≤ n

theorem bounded_portableKernel [DecidableEq α] (n : Nat) :
    Bounded n (portableKernel (α := α) n) := by
  intro a b ha hb
  refine ⟨_, by rw [portableKernel, load_eq ha, ok_bind, load_eq hb, ok_bind]; rfl, ?_⟩
  rw [matchLanes_eq]
  exact List.countP_le_length.trans (Nat.le_of_eq (Vector.length_toList))

/-- Every turn of the loop succeeds and stays inside. -/
def Loop.Stays (loop : Loop u v) : Prop :=
  ∀ {c : Cursor}, c.Inside u v → ∃ t, loop.turn c = .ok t ∧ t.Stays u v c

variable [LT α] [DecidableLT α]

theorem blockTurn_stays {lanes : Nat} (hl : 0 < lanes) {kernel : Kernel α}
    (bounded : Bounded lanes kernel) (hc : c.Inside u v) :
    ∃ t, blockTurn lanes kernel u v c = .ok t ∧ t.Stays u v c := by
  by_cases fits : c.i + lanes ≤ u.size ∧ c.j + lanes ≤ v.size
  case neg => exact ⟨.leave, if_neg fits, trivial⟩
  case pos =>
    obtain ⟨hi, hj⟩ := fits
    have passFirst {count : Nat} (h : count ≤ lanes) := hc.pass (m := 0) hi hc.second h
    have passSecond {count : Nat} (h : count ≤ lanes) :=
      hc.pass (n := 0) hc.first hj (h.trans_eq (Nat.zero_add lanes).symm)
    rw [blockTurn_inside hl kernel hi hj]
    split
    case isTrue =>
      split
      case isTrue => exact ⟨.finish, rfl, trivial⟩
      case isFalse => exact ⟨_, rfl, passSecond (Nat.zero_le _)⟩
    case isFalse =>
      split
      case isTrue =>
        split
        case isTrue => exact ⟨.finish, rfl, trivial⟩
        case isFalse => exact ⟨_, rfl, passFirst (Nat.zero_le _)⟩
      case isFalse =>
        obtain ⟨count, counted, small⟩ := bounded (u.extract c.i (c.i + lanes))
          (v.extract c.j (c.j + lanes)) (by rw [Array.size_extract]; omega)
          (by rw [Array.size_extract]; omega)
        rw [counted, ok_bind]
        split
        case isTrue => exact ⟨_, rfl, passFirst small⟩
        case isFalse =>
          split
          case isTrue => exact ⟨_, rfl, passSecond small⟩
          case isFalse => exact ⟨_, rfl, hc.pass hi hj (Nat.le_add_right_of_le small)⟩

variable [DecidableEq α]

omit [LT α] [DecidableLT α] in
theorem credit_le (block : Array α) (x : α) (total : Nat) :
    ∃ count, credit block x total = total + count ∧ count ≤ 1 := by
  unfold credit
  split
  case isTrue => exact ⟨1, rfl, Nat.le_refl _⟩
  case isFalse => exact ⟨0, rfl, Nat.zero_le _⟩

/-- A walk stays inside, and counts no more than it passes. -/
theorem exists_walk (block : Array α) (last : α) {j : Nat} (hj : j ≤ v.size) (total : Nat) :
    ∃ m count, walk block last v j total = (j + m, total + count) ∧ j + m ≤ v.size ∧
      count ≤ m := by
  fun_induction walk block last v j total with
  | case1 j total => exact ⟨0, 0, rfl, hj, Nat.le_refl _⟩
  | case2 j total inside _ ih =>
    obtain ⟨m, count, walked, within, bounded⟩ := ih inside
    obtain ⟨one, credited, small⟩ := credit_le block v[j] total
    refine ⟨m + 1, one + count, ?_, by omega, by omega⟩
    rw [walked, credited, Nat.add_assoc j, Nat.add_comm 1, Nat.add_assoc]
  | case3 j total => exact ⟨0, 0, rfl, hj, Nat.le_refl _⟩

theorem alongTurn_stays {lanes : Nat} (hl : 0 < lanes) (hc : c.Inside u v) :
    ∃ t, alongTurn lanes u v c = .ok t ∧ t.Stays u v c := by
  by_cases fits : c.i + lanes ≤ u.size ∧ c.j < v.size
  case neg => exact ⟨.leave, if_neg fits, trivial⟩
  case pos =>
    obtain ⟨m, count, walked, within, bounded⟩ := exists_walk
      (u.extract c.i (c.i + lanes)) u[c.i + lanes - 1] hc.second c.total
    rw [alongTurn_inside hl fits.1 fits.2, walked]
    exact ⟨_, rfl, hc.pass fits.1 within (Nat.le_add_left_of_le bounded)⟩

theorem scalarTurn_stays (hc : c.Inside u v) :
    ∃ t, scalarTurn u v c = .ok t ∧ t.Stays u v c := by
  by_cases inside : c.i < u.size ∧ c.j < v.size
  case neg => exact ⟨.leave, scalarTurn_outside inside, trivial⟩
  case pos =>
    obtain ⟨hi, hj⟩ := inside
    rw [scalarTurn_inside hi hj]
    split
    case isTrue => exact ⟨.finish, rfl, trivial⟩
    case isFalse =>
      split
      case isTrue => exact ⟨_, rfl, hc.pass (n := 1) (m := 1) hi hj (Nat.le_succ 1)⟩
      case isFalse =>
        split
        case isTrue => exact ⟨_, rfl, hc.pass (n := 1) (m := 0) hi hc.second (Nat.zero_le _)⟩
        case isFalse => exact ⟨_, rfl, hc.pass (n := 0) (m := 1) hc.first hj (Nat.zero_le _)⟩

theorem Loop.alongV_stays {lanes : Nat} (hl : 0 < lanes) : (Loop.alongV u v hl).Stays := by
  intro c hc
  obtain ⟨t, turned, stays⟩ := alongTurn_stays hl hc.swap
  exact ⟨t.swap, by simp [alongV, turned, Except.map], stays.swap⟩

theorem stays_of_mem_loops (width : Width) {kernels : Kernels α} (four : Bounded 4 kernels.four)
    (eight : Bounded 8 kernels.eight) (sixteen : Bounded 16 kernels.sixteen) :
    ∀ loop ∈ loops width kernels u v, loop.Stays :=
  forall_mem_loops width (fun hl => blockTurn_stays hl four) (fun hl => blockTurn_stays hl eight)
    (fun hl => blockTurn_stays hl sixteen) (fun hl => alongTurn_stays hl) Loop.alongV_stays
    scalarTurn_stays

omit [LT α] [DecidableLT α] [DecidableEq α] in
/-- Where a merge of such loops stands, it is inside, and its next turn succeeds and stays there. -/
theorem Loop.Reaches.inside {all rest : List (Loop u v)} (stays : ∀ loop ∈ all, loop.Stays)
    (h : Reaches all rest c) : c.Inside u v := by
  refine h.invariant Cursor.inside_start ?_
  intro loop hloop c d inside again
  obtain ⟨t, turned, stay⟩ := stays loop hloop inside
  rw [again, Except.ok.injEq] at turned
  subst turned
  exact stay.1

/-- With bounded kernels a merge ends where it can stand, and counts no more than both sides hold. -/
theorem exists_size (width : Width) {kernels : Kernels α} (four : Bounded 4 kernels.four)
    (eight : Bounded 8 kernels.eight) (sixteen : Bounded 16 kernels.sixteen) (u v : Array α) :
    ∃ rest d, Loop.Reaches (loops width kernels u v) rest d ∧
      size width kernels u v = .ok d.total ∧ d.total ≤ u.size + v.size := by
  have stays : ∀ loop ∈ loops width kernels u v, loop.Stays :=
    stays_of_mem_loops width four eight sixteen
  obtain ⟨d, rest, ran, reached⟩ := Loop.Reaches.start.exists_runAll fun {loop _ _} h => by
    obtain ⟨t, turned, -⟩ := stays loop h.mem (h.inside stays)
    exact ⟨t, turned⟩
  have inside := reached.inside stays
  refine ⟨rest, d, reached, ?_, inside.counted.trans (Nat.add_le_add inside.first inside.second)⟩
  rw [size, ran, ok_bind, pure_eq_ok]

/-- Two arrays may hold anything in any order: wherever a merge of them stands on its way to the end,
both sides of its cursor are inside, and its next turn reads nothing out of range. If the loop goes
round again, neither side has been taken back, so whatever the turn walked over lies inside too, and
less is left to merge. The merge ends, and counts no more than both arrays hold together. -/
theorem portable_size_inside (width : Width) (u v : Array α) :
    (∀ rest c, Loop.Reaches (loops width .portable u v) rest c →
      Loop.runAll rest c = Loop.runAll (loops width .portable u v) .start ∧
        c.i ≤ u.size ∧ c.j ≤ v.size ∧ c.total ≤ c.i + c.j ∧
        ∀ loop ∈ rest.head?, ∃ t, loop.turn c = .ok t ∧ ∀ d, t = .again d →
          c.i ≤ d.i ∧ c.j ≤ d.j ∧ d.left u.size v.size < c.left u.size v.size) ∧
    ∃ rest d, Loop.Reaches (loops width .portable u v) rest d ∧
      (Strategy.portable width).size u v = .ok d.total ∧ d.total ≤ u.size + v.size := by
  have four : Bounded 4 (Kernels.portable (α := α)).four := bounded_portableKernel 4
  have eight : Bounded 8 (Kernels.portable (α := α)).eight := bounded_portableKernel 8
  have sixteen : Bounded 16 (Kernels.portable (α := α)).sixteen := bounded_portableKernel 16
  have stays : ∀ loop ∈ loops width .portable u v, loop.Stays :=
    stays_of_mem_loops width four eight sixteen
  refine ⟨?_, exists_size width four eight sixteen u v⟩
  intro rest c reached
  have inside := reached.inside stays
  refine ⟨reached.runAll_eq, inside.first, inside.second, inside.counted, ?_⟩
  intro loop head
  obtain ⟨rest, rfl⟩ : ∃ tail, rest = loop :: tail := List.head?_eq_some_iff.mp head
  obtain ⟨t, turned, stay⟩ := stays loop reached.mem inside
  refine ⟨t, turned, ?_⟩
  rintro d rfl
  exact ⟨stay.2.1, stay.2.2, loop.progress turned⟩

/-- Out of order, an element may be counted once for every block of the other side. -/
example : (Strategy.portable .four).size #[1, 2, 3, 9] #[1, 2, 3, 4, 3, 2, 1, 5] = .ok 6 := by
  cbv

end Motif.Intersection
