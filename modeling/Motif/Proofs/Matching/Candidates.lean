import Motif.Matching.Search
import Motif.Proofs.Matching.VisitOrder

/-!
# The candidates for the next image

The search looks for candidates where the fewest can be, and checks what is cheap first. What it
finds are the vertices that may follow the images so far, in ascending order, wherever it looks.
-/

set_option autoImplicit false

namespace Motif.Matching

open Sorted

/-- Whether a target vertex may follow the images so far: its degree is high enough, it is no
image yet, and it is joined to the images as the kind of embedding asks for. -/
def Extends (p : Problem) (images : List Nat) (w : Nat) : Prop :=
  p.order.degrees[images.length]?.getD 0 ≤ (p.target.neighborList w).length ∧ w ∉ images ∧
    (∀ j ∈ p.order.earlierNeighbors[images.length]?.getD [],
      ∀ x ∈ images[j]?, p.target.Adj x w) ∧
    (p.kind = .induced → ∀ j ∈ p.order.earlierStrangers[images.length]?.getD [],
      ∀ x ∈ images[j]?, ¬ p.target.Adj x w)

instance (p : Problem) (images : List Nat) (w : Nat) : Decidable (Extends p images w) :=
  inferInstanceAs (Decidable (_ ∧ _ ∧ _ ∧ _))

/-- The target vertices that may follow the images so far, in ascending order. -/
def candidateList (p : Problem) (images : List Nat) : List Nat :=
  p.target.vertices.filter fun w => Extends p images w

theorem mem_candidateList {p : Problem} {images : List Nat} {w : Nat} :
    w ∈ candidateList p images ↔ w < p.target.vertexCount ∧ Extends p images w := by
  simp [candidateList]

theorem extends_iff {p : Problem} {pattern : Graph} (visits : p.order.Visits pattern)
    {images : List Nat} {v : Nat} (hv : p.order.order[images.length]? = some v) (w : Nat) :
    Extends p images w ↔
      (∀ j ∈ VisitOrder.joined pattern p.order.order images.length v,
        ∀ x ∈ images[j]?, p.target.Adj x w) ∧
      (pattern.neighborList v).length ≤ (p.target.neighborList w).length ∧ w ∉ images ∧
      (p.kind = .induced → ∀ j ∈ VisitOrder.apart pattern p.order.order images.length v,
        ∀ x ∈ images[j]?, ¬ p.target.Adj x w) := by
  rw [Extends, visits.degrees _ v hv, visits.neighbors _ v hv, visits.strangers _ v hv]
  simp only [Option.getD_some]
  tauto

namespace Search

/-- The marks are those of the images, which are distinct vertices. -/
def Marked (target : Graph) (s : Search) : Prop :=
  Marks target.vertexCount s.used s.images.toList

theorem every_eq {test : Nat → Except Error Bool} {f : Nat → Bool} {js : List Nat}
    (h : ∀ j ∈ js, test j = .ok (f j)) : every test js = .ok (js.all f) := by
  induction js with
  | nil => rfl
  | cons j js ih =>
    have rest := ih fun k hk => h k (List.mem_cons_of_mem _ hk)
    rw [every, h j List.mem_cons_self, ok_bind, rest, List.all_cons]
    cases f j <;> rfl

variable {p : Problem} {s : Search}

/-- The base is one of the depths, and only missing if there are none. -/
theorem shortest_spec (wf : p.target.WellFormed) (marked : s.Marked p.target) {depths : List Nat}
    (mapped : ∀ j ∈ depths, j < s.images.size) :
    (depths = [] ∧ s.shortest p depths = .ok none) ∨
      ∃ base ∈ depths, s.shortest p depths = .ok (some base) := by
  have keyed : (depths.mapM fun j => do
      return (← p.target.degree (← read s.images j), j)) =
      .ok (depths.map fun j => ((p.target.neighborList (s.images[j]?.getD 0)).length, j)) := by
    refine mapM_eq_map fun j hj => ?_
    have hj := mapped j hj
    rw [read_of_lt hj, ok_bind,
      wf.degree_eq (marked.inside _ (Array.getElem_mem_toList hj)), ok_bind,
      Array.getElem?_eq_getElem hj]
    rfl
  have picks (a b : Nat × Nat) :
      (if b.1 < a.1 then b else a) = a ∨ (if b.1 < a.1 then b else a) = b := by
    split
    · exact .inr rfl
    · exact .inl rfl
  cases depths with
  | nil => exact .inl ⟨rfl, rfl⟩
  | cons j js =>
    refine .inr ⟨_, ?_, by rw [shortest, keyed]; rfl⟩
    have chosen := List.mem_map_of_mem (f := Prod.snd) (foldl_mem picks
      (js.map fun j => ((p.target.neighborList (s.images[j]?.getD 0)).length, j))
      ((p.target.neighborList (s.images[j]?.getD 0)).length, j))
    simpa [Function.comp_def] using chosen

theorem adjacentTo_eq (wf : p.target.WellFormed) (marked : s.Marked p.target) {j : Nat}
    (hj : j < s.images.size) (w : Nat) :
    s.adjacentTo p w j = .ok (decide (∀ x ∈ s.images.toList[j]?, p.target.Adj x w)) := by
  rw [adjacentTo, read_of_lt hj, ok_bind,
    wf.adjacent_eq (marked.inside _ (Array.getElem_mem_toList hj))]
  simp [hj]

theorem accepts_eq (wf : p.target.WellFormed) (marked : s.Marked p.target) (degree : Nat) {w : Nat}
    {strangers : List Nat} (mapped : ∀ j ∈ strangers, j < s.images.size)
    (hw : w < p.target.vertexCount) :
    s.accepts p degree strangers w =
      .ok (decide (degree ≤ (p.target.neighborList w).length ∧ w ∉ s.images.toList ∧
        (p.kind = .induced → ∀ j ∈ strangers, ∀ x ∈ s.images.toList[j]?,
          ¬ p.target.Adj x w))) := by
  rw [accepts, wf.degree_eq hw, ok_bind, marked.read_eq hw]
  by_cases small : (p.target.neighborList w).length < degree
  · rw [if_pos small, decide_eq_false (fun h => Nat.not_lt.mpr h.1 small)]
    rfl
  · rw [if_neg small, ok_bind]
    by_cases taken : w ∈ s.images.toList
    · rw [if_pos (decide_eq_true taken), decide_eq_false (fun h => h.2.1 taken)]
      rfl
    · rw [if_neg (by simpa using taken)]
      have high : degree ≤ (p.target.neighborList w).length := Nat.not_lt.mp small
      cases kind : p.kind with
      | nonInduced => simp [high, taken]
      | induced =>
        have checked : every (fun j => do return !(← s.adjacentTo p w j)) strangers =
            .ok (strangers.all fun j =>
              !decide (∀ x ∈ s.images.toList[j]?, p.target.Adj x w)) := by
          refine every_eq fun j hj => ?_
          rw [adjacentTo_eq wf marked (mapped j hj)]
          rfl
        change every (fun j => do return !(← s.adjacentTo p w j)) strangers = _
        rw [checked]
        congr 1
        rw [Bool.eq_iff_iff, List.all_eq_true, decide_eq_true_iff]
        have single {j : Nat} (hj : j ∈ strangers) :
            (∀ x ∈ s.images.toList[j]?, ¬ p.target.Adj x w) ↔
              ¬ ∀ x ∈ s.images.toList[j]?, p.target.Adj x w := by
          have := mapped j hj
          simp [this]
        constructor
        · intro h
          refine ⟨high, taken, fun _ j hj => (single hj).mpr ?_⟩
          simpa using h j hj
        · intro h j hj
          simpa using (single hj).mp (h.2.2 rfl j hj)

section Depth

variable {pattern : Graph} {v : Nat}

/-- A vertex in the row of the base is adjacent to the base, so only the others are asked. -/
theorem probe_eq (wf : p.target.WellFormed) (marked : s.Marked p.target)
    (visits : p.order.Visits pattern) (hv : p.order.order[s.images.size]? = some v) {base w : Nat}
    (hbase : base < s.images.size) (hw : p.target.Adj s.images[base] w) :
    (do
      if ← every (fun j => if j = base then .ok true else s.adjacentTo p w j)
          (VisitOrder.joined pattern p.order.order s.images.size v) then
        s.accepts p (pattern.neighborList v).length
          (VisitOrder.apart pattern p.order.order s.images.size v) w
      else return false) = .ok (decide (Extends p s.images.toList w)) := by
  have meaning := extends_iff visits (show p.order.order[s.images.toList.length]? = some v from hv) w
  have checked : every (fun j => if j = base then .ok true else s.adjacentTo p w j)
      (VisitOrder.joined pattern p.order.order s.images.size v) =
      .ok ((VisitOrder.joined pattern p.order.order s.images.size v).all fun j =>
        decide (∀ x ∈ s.images.toList[j]?, p.target.Adj x w)) := by
    refine every_eq fun j hj => ?_
    split
    case isTrue here =>
      have image : s.images.toList[base]? = some s.images[base] := by simp [hbase]
      rw [here, image, eq_comm, Except.ok.injEq, decide_eq_true_iff]
      rintro x ⟨⟩
      exact hw
    case isFalse => exact adjacentTo_eq wf marked (VisitOrder.mem_joined.mp hj).1 w
  have accepted := accepts_eq wf marked (pattern.neighborList v).length
    (fun j (hj : j ∈ VisitOrder.apart pattern p.order.order s.images.size v) =>
      (VisitOrder.mem_apart.mp hj).1) (wf.lt_of_adj' hw)
  rw [checked, ok_bind]
  by_cases all : ∀ j ∈ VisitOrder.joined pattern p.order.order s.images.size v,
      ∀ x ∈ s.images.toList[j]?, p.target.Adj x w
  · rw [if_pos (by simpa using all), accepted, Except.ok.injEq, decide_eq_decide, meaning]
    exact ⟨fun h => ⟨all, h⟩, fun h => h.2⟩
  · rw [if_neg (by simpa using all), decide_eq_false (fun h => all (meaning.mp h).1)]
    rfl

/-- The candidates as they are looked for in the row of a given image, or among all vertices. -/
def candidatesFrom (p : Problem) (s : Search) (base? : Option Nat) : Except Error (List Nat) := do
  let degree ← read p.order.degrees s.images.size
  let neighbors ← read p.order.earlierNeighbors s.images.size
  let nonNeighbors ← read p.order.earlierStrangers s.images.size
  match base? with
  | some base =>
    let row ← p.target.row (← read s.images base)
    keep (fun w => do
      if ← every (fun j => if j = base then .ok true else s.adjacentTo p w j) neighbors then
        s.accepts p degree nonNeighbors w
      else return false) row.toList
  | none => keep (s.accepts p degree nonNeighbors) p.target.vertices

/-- A search looks for candidates in the shortest row. -/
theorem candidates_eq_candidatesFrom {neighbors : List Nat} {base? : Option Nat}
    (depths : p.order.earlierNeighbors[s.images.size]? = some neighbors)
    (found : s.shortest p neighbors = .ok base?) : s.candidates p = s.candidatesFrom p base? := by
  rw [candidates, candidatesFrom]
  congr 1
  funext degree
  rw [read_eq_ok.mpr depths, ok_bind, ok_bind]
  congr 1
  funext nonNeighbors
  rw [found]
  rfl

/-- What is looked for in the row of any image that has to be adjacent, or among all vertices if there
is none, are the same candidates. -/
theorem candidatesFrom_eq (wf : p.target.WellFormed) (marked : s.Marked p.target)
    (visits : p.order.Visits pattern) (hv : p.order.order[s.images.size]? = some v)
    {base? : Option Nat}
    (chosen : ∀ base ∈ base?, base ∈ VisitOrder.joined pattern p.order.order s.images.size v)
    (unjoined : base? = none → VisitOrder.joined pattern p.order.order s.images.size v = []) :
    s.candidatesFrom p base? = .ok (candidateList p s.images.toList) := by
  have meaning := extends_iff visits (show p.order.order[s.images.toList.length]? = some v from hv)
  rw [candidatesFrom, read_eq_ok.mpr (visits.degrees _ v hv), ok_bind,
    read_eq_ok.mpr (visits.neighbors _ v hv), ok_bind,
    read_eq_ok.mpr (visits.strangers _ v hv), ok_bind]
  cases base? with
  | none =>
    refine (keep_eq_filter fun w hw => accepts_eq wf marked _
      (fun j hj => (VisitOrder.mem_apart.mp hj).1) (Graph.mem_vertices.mp hw)).trans ?_
    rw [candidateList]
    congr 2
    funext w
    have none : VisitOrder.joined pattern p.order.order s.images.toList.length v = [] := unjoined rfl
    rw [decide_eq_decide, meaning, none]
    simp
  | some base =>
    have hbase := chosen base rfl
    have inside := (VisitOrder.mem_joined.mp hbase).1
    have image : s.images.toList[base]? = some s.images[base] := by simp [inside]
    dsimp only
    rw [read_of_lt inside, ok_bind,
      wf.row_eq (marked.inside _ (Array.getElem_mem_toList inside)), ok_bind,
      keep_eq_filter fun w hw => probe_eq wf marked visits hv inside hw, Except.ok.injEq]
    refine List.Pairwise.eq_of_mem_iff ((wf.ascending' _).filter _)
      (List.pairwise_lt_range.filter _) fun w => ?_
    rw [List.mem_filter, decide_eq_true_iff]
    refine Iff.trans ?_ mem_candidateList.symm
    constructor
    · exact fun h => ⟨wf.lt_of_adj' h.1, h.2⟩
    · exact fun h => ⟨((meaning w).mp h.2).1 base hbase _ image, h.2⟩

theorem candidates_eq (wf : p.target.WellFormed) (marked : s.Marked p.target)
    (visits : p.order.Visits pattern) (room : s.images.size < p.order.size) :
    s.candidates p = .ok (candidateList p s.images.toList) := by
  obtain ⟨v, hv⟩ : ∃ v, p.order.order[s.images.size]? = some v :=
    ⟨_, Array.getElem?_eq_getElem room⟩
  have neighbors := visits.neighbors _ v hv
  rcases shortest_spec wf marked (fun j hj => (VisitOrder.mem_joined.mp hj).1)
    with ⟨none, found⟩ | ⟨base, hbase, found⟩
  · rw [candidates_eq_candidatesFrom neighbors found]
    exact candidatesFrom_eq wf marked visits hv nofun fun _ => none
  · rw [candidates_eq_candidatesFrom neighbors found]
    refine candidatesFrom_eq wf marked visits hv ?_ nofun
    rintro _ ⟨⟩
    exact hbase

end Depth

end Search

end Motif.Matching
