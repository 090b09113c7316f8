import Motif.Matching.VisitOrder

/-!
Depth-first search for the embeddings of a pattern that map its first visited vertex to a given
root. The search keeps a stack of frames, one for each vertex it is trying to map; a frame holds
the candidates of its vertex. A turn takes the next candidate of the innermost frame and pushes
a frame for the next vertex, or pops a frame that has no candidate left.

Every turn lowers the weight of the search, so asking for the next embedding ends.
-/

set_option autoImplicit false

namespace Motif.Matching

/-- An induced embedding maps vertices without an edge to vertices without an edge; the other
kind keeps edges only. -/
inductive Kind where
  | induced
  | nonInduced
deriving DecidableEq

/-- What is searched for, and where. -/
structure Problem where
  target : Graph
  order : VisitOrder
  kind : Kind

/-- The candidates for one vertex, and how many of them have been taken. -/
structure Frame where
  candidates : Array Nat
  taken : Nat
deriving DecidableEq

namespace Frame

def blank : Frame := ⟨#[], 0⟩

/-- How many candidates are left. -/
def left (f : Frame) : Nat := f.candidates.size - f.taken

def current? (f : Frame) : Option Nat := f.candidates[f.taken]?

def advance (f : Frame) : Frame := { f with taken := f.taken + 1 }

/-- Puts new candidates into a used frame. -/
def refill (f : Frame) (candidates : List Nat) : Frame :=
  ⟨f.candidates.take 0 ++ candidates, 0⟩

@[simp] theorem left_refill (f : Frame) (candidates : List Nat) :
    (f.refill candidates).left = candidates.length := by
  simp [refill, left]

theorem left_advance {f : Frame} {v : Nat} (h : f.current? = some v) :
    f.advance.left + 1 = f.left := by
  obtain ⟨hlt, _⟩ := Array.getElem?_eq_some_iff.1 h
  simp only [left, advance]
  omega

end Frame

/-- The state of a search. `images` holds the target vertex of every depth that is mapped, and
`used` marks these vertices; the innermost frame comes first. Frames that were popped are kept
in `spare` and used again. -/
structure Search where
  images : Array Nat
  used : Array Bool
  frames : List Frame
  spare : List Frame

namespace Search

def start (target : Graph) : Search :=
  ⟨#[], Array.replicate target.vertexCount false, [], []⟩

/-- A frame to use again, if there is one, and the other spare frames. -/
def takeSpare : List Frame → Frame × List Frame
  | [] => (.blank, [])
  | f :: rest => (f, rest)

/-- Drops what was found and what was left to try, and begins at `root`. -/
def restart (s : Search) (root : Nat) : Except Error Search := do
  let used ← s.images.toList.foldlM (fun used v => write used v false) s.used
  let (frame, spare) := takeSpare (s.frames ++ s.spare)
  return ⟨#[], used, [frame.refill [root]], spare⟩

section Candidates

/-- Whether a test holds for every element; tests after one that fails are not tried. -/
def every (test : Nat → Except Error Bool) : List Nat → Except Error Bool
  | [] => .ok true
  | j :: js => do if ← test j then every test js else return false

/-- Whether the image of depth `j` is adjacent to `w`. -/
def adjacentTo (p : Problem) (s : Search) (w j : Nat) : Except Error Bool := do
  p.target.adjacent (← read s.images j) w

/-- The depth whose image has the shortest row, the first of several. -/
def shortest (p : Problem) (s : Search) (depths : List Nat) : Except Error (Option Nat) := do
  let keyed ← depths.mapM fun j => do return (← p.target.degree (← read s.images j), j)
  match keyed with
  | [] => return none
  | k :: ks => return some (ks.foldl (fun a b => if b.1 < a.1 then b else a) k).2

/-- Whether `w` can be the image of a vertex, its edges to mapped vertices apart: its degree is
high enough, it is no image yet, and it has no edge that an induced embedding would lack. -/
def accepts (p : Problem) (s : Search) (degree : Nat) (nonNeighbors : List Nat) (w : Nat) :
    Except Error Bool := do
  if (← p.target.degree w) < degree then return false
  else if ← read s.used w then return false
  else
    match p.kind with
    | .nonInduced => return true
    | .induced => every (fun j => do return !(← s.adjacentTo p w j)) nonNeighbors

/-- The target vertices that can be the next image, in ascending order. They are looked for in
the shortest row of an image that has to be adjacent, or among all vertices if there is none. -/
def candidates (p : Problem) (s : Search) : Except Error (List Nat) := do
  let depth := s.images.size
  let degree ← read p.order.degrees depth
  let neighbors ← read p.order.earlierNeighbors depth
  let nonNeighbors ← read p.order.earlierStrangers depth
  match ← s.shortest p neighbors with
  | some base =>
    let row ← p.target.row (← read s.images base)
    keep (fun w => do
      if ← every (fun j => if j = base then .ok true else s.adjacentTo p w j) neighbors then
        s.accepts p degree nonNeighbors w
      else return false) row.toList
  | none => keep (s.accepts p degree nonNeighbors) p.target.vertices

/-- Fills a frame for the next vertex. -/
def fill (p : Problem) (s : Search) (frame : Frame) : Except Error Frame := do
  return frame.refill (← s.candidates p)

end Candidates

/-- The images by pattern vertex. -/
def row (p : Problem) (s : Search) : Except Error (Array Nat) :=
  s.images.toList.zipIdx.foldlM (fun row image => do
    let vertex ← read p.order.order image.2
    write row vertex image.1) (Array.replicate s.images.size 0)

/-- Gives back the image at depth `depth`, if the search has mapped that many vertices. -/
def release (s : Search) (depth : Nat) : Except Error Search :=
  if s.images.size = depth then
    match s.images.back? with
    | some v => do
      let used ← write s.used v false
      return { s with images := s.images.pop, used := used }
    | none => .ok s
  else .ok s

inductive Turn where
  | again (s : Search)
  | found (row : Array Nat) (s : Search)
  | exhausted (s : Search)

/-- One turn of the search. -/
def turn (p : Problem) (s : Search) : Except Error Turn :=
  match s.frames with
  | [] => .ok (.exhausted s)
  | frame :: outer => do
    let s ← s.release (outer.length + 1)
    match frame.current? with
    | none => return .again { s with frames := outer, spare := frame.advance :: s.spare }
    | some v =>
      let used ← write s.used v true
      let mapped : Search := ⟨s.images.push v, used, frame.advance :: outer, s.spare⟩
      if outer.length + 1 < p.order.size then
        let (recycled, spare) := takeSpare mapped.spare
        let inner ← mapped.fill p recycled
        return .again { mapped with frames := inner :: mapped.frames, spare := spare }
      else
        return .found (← mapped.row p) mapped

/-- More than the candidates of any frame. -/
def breadth (p : Problem) : Nat := p.target.vertexCount + p.target.neighbors.size + 2

/-- The leaves of a tree with so many branches at each of its levels. -/
def leaves (branches : Nat) : Nat → Nat
  | 0 => 1
  | levels + 1 => branches * leaves branches levels

theorem leaves_pos {branches : Nat} (h : 0 < branches) (levels : Nat) :
    0 < leaves branches levels := by
  induction levels with
  | zero => exact Nat.zero_lt_one
  | succ levels ih => exact Nat.mul_pos h ih

/-- A frame weighs more than all frames that can be pushed above it before its next turn. -/
def frameWeight (breadth depth : Nat) : List Frame → Nat
  | [] => 0
  | f :: outer =>
    (f.left + 1) * leaves breadth (depth - (outer.length + 1)) + frameWeight breadth depth outer

def weight (p : Problem) (s : Search) : Nat := frameWeight (breadth p) p.order.size s.frames

theorem candidates_length {p : Problem} {s : Search} {cs : List Nat}
    (h : s.candidates p = .ok cs) : cs.length + 1 < breadth p := by
  obtain ⟨degree, _, h⟩ := bind_eq_ok.1 h
  obtain ⟨neighbors, _, h⟩ := bind_eq_ok.1 h
  obtain ⟨nonNeighbors, _, h⟩ := bind_eq_ok.1 h
  obtain ⟨base?, _, h⟩ := bind_eq_ok.1 h
  cases base? with
  | some base =>
    obtain ⟨image, _, h⟩ := bind_eq_ok.1 h
    obtain ⟨row, hrow, h⟩ := bind_eq_ok.1 h
    have h₁ := keep_length_le h
    have h₂ := Graph.row_size_le hrow
    simp only [Array.length_toList] at h₁
    simp only [breadth]
    omega
  | none =>
    have h₁ := keep_length_le h
    simp only [Graph.vertices, List.length_range] at h₁
    simp only [breadth]
    omega

theorem left_fill {p : Problem} {s : Search} {frame inner : Frame}
    (h : s.fill p frame = .ok inner) : inner.left + 1 < breadth p := by
  obtain ⟨cs, hcs, h⟩ := bind_eq_ok.1 h
  simp only [pure_eq_ok, Except.ok.injEq] at h
  subst h
  rw [Frame.left_refill]
  exact candidates_length hcs

/-- Taking a candidate outweighs the frame that is pushed for the next vertex. -/
theorem push_weight_lt {b depth k l m : Nat} (hk : k < depth) (hl : l + 1 < b) :
    (l + 1) * leaves b (depth - (k + 1)) + (m + 1) * leaves b (depth - k) <
      (m + 1 + 1) * leaves b (depth - k) := by
  have hb : leaves b (depth - k) = b * leaves b (depth - (k + 1)) := by
    rw [show depth - k = (depth - (k + 1)) + 1 by omega, leaves]
  have hpos : 0 < leaves b (depth - (k + 1)) := leaves_pos (by omega) _
  have hlt : (l + 1) * leaves b (depth - (k + 1)) < b * leaves b (depth - (k + 1)) :=
    Nat.mul_lt_mul_of_pos_right hl hpos
  rw [Nat.add_mul (m + 1) 1, Nat.one_mul, hb]
  omega

theorem weight_lt_of_turn {p : Problem} {s : Search} {t : Turn} (h : s.turn p = .ok t) :
    match t with
    | .again s' => s'.weight p < s.weight p
    | .found _ s' => s'.weight p < s.weight p
    | .exhausted s' => s' = s := by
  unfold turn at h
  split at h
  · simp only [Except.ok.injEq] at h
    subst h
    rfl
  · rename_i frame outer hf
    obtain ⟨r, hr, h⟩ := bind_eq_ok.1 h
    have hpos : 0 < leaves (breadth p) (p.order.size - (outer.length + 1)) :=
      leaves_pos (by simp only [breadth]; omega) _
    split at h
    · simp only [pure_eq_ok, Except.ok.injEq] at h
      subst h
      simp only [weight, hf, frameWeight]
      have := Nat.mul_pos (show 0 < frame.left + 1 by omega) hpos
      omega
    · rename_i v hv
      obtain ⟨used, _, h⟩ := bind_eq_ok.1 h
      have hleft := Frame.left_advance hv
      split at h
      · rename_i hdepth
        obtain ⟨inner, hinner, h⟩ := bind_eq_ok.1 h
        simp only [pure_eq_ok, Except.ok.injEq] at h
        subst h
        have := push_weight_lt (m := frame.advance.left) hdepth (left_fill hinner)
        simp only [weight, hf, frameWeight, List.length_cons]
        rw [← hleft]
        omega
      · obtain ⟨row, _, h⟩ := bind_eq_ok.1 h
        simp only [pure_eq_ok, Except.ok.injEq] at h
        subst h
        simp only [weight, hf, frameWeight]
        rw [← hleft, Nat.add_mul (frame.advance.left + 1)]
        omega

/-- Turns until an embedding is found or none is left. -/
def next (p : Problem) (s : Search) : Except Error (Option (Array Nat) × Search) :=
  match _h : s.turn p with
  | .error e => .error e
  | .ok (.exhausted s') => .ok (none, s')
  | .ok (.found row s') => .ok (some row, s')
  | .ok (.again s') => s'.next p
termination_by s.weight p
decreasing_by exact weight_lt_of_turn _h

theorem weight_lt_of_next {p : Problem} {s s' : Search} {row : Array Nat}
    (h : s.next p = .ok (some row, s')) : s'.weight p < s.weight p := by
  fun_induction next p s with
  | case1 s e he => simp at h
  | case2 s t ht => simp at h
  | case3 s r t ht =>
    simp only [Except.ok.injEq, Prod.mk.injEq] at h
    rw [← h.2]
    exact weight_lt_of_turn ht
  | case4 s t ht ih => exact Nat.lt_trans (ih h) (weight_lt_of_turn ht)

end Search

end Motif.Matching
