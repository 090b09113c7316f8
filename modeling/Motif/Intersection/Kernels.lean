import Motif.Intersection.Merge

/-!
Blocks as vectors of lanes, and the kernels that match two blocks: every lane of the first is
compared with every lane of the second by rotating the second one lane at a time.

The portable kernel works for any number of lanes. The others do the same with the instructions
that a processor has for four, eight and sixteen lanes; an instruction is what it does to each
lane.
-/

set_option autoImplicit false

namespace Motif.Intersection

variable {α : Type} {n : Nat}

/-- The first elements of a block, one in each lane. -/
def load (n : Nat) (block : Array α) : Except Error (Vector α n) :=
  if h : n ≤ block.size then .ok ⟨block.extract 0 n, by simp [Nat.min_eq_left h]⟩
  else .error (.fault (.shortBlock n block.size))

/-- A truth value in every lane. -/
abbrev Mask (n : Nat) := Vector Bool n

namespace Mask

def or (a b : Mask n) : Mask n := Vector.ofFn fun i => a[i] || b[i]

def full (m : Mask n) : Bool := m.all id

def count (m : Mask n) : Nat := m.toList.count true

end Mask

section Equal

variable [DecidableEq α]

/-- The lanes in which two vectors agree. -/
def equalLanes (a b : Vector α n) : Mask n := Vector.ofFn fun i => decide (a[i] = b[i])

/-- Lane `i` takes what stood `r` lanes further on, around the end. -/
def rotate (b : Vector α n) (r : Nat) : Vector α n :=
  Vector.ofFn fun i => b.get ⟨(i.val + r) % n, Nat.mod_lt _ (Nat.zero_lt_of_lt i.isLt)⟩

/-- The lanes of `a` that agree with a lane of `b`. Equal vectors need no rotation. -/
def matchLanes (a b : Vector α n) : Nat :=
  let straight := equalLanes a b
  if straight.full then n
  else
    ((List.range' 1 (n - 1)).foldl (fun m r => m.or (equalLanes a (rotate b r))) straight).count

def portableKernel (n : Nat) : Kernel α := fun a b => do
  return matchLanes (← load n a) (← load n b)

end Equal

/-- Lane `i` of four takes the lane that bits `2 i` and `2 i + 1` of the selector name. -/
def shuffle (selector : Nat) (b : Vector α 4) : Vector α 4 :=
  Vector.ofFn fun i =>
    b.get ⟨(selector >>> (2 * i.val)) % 4, Nat.mod_lt _ (by decide)⟩

/-- Lane `i` takes the lane named by the low bits of the index in lane `i`. -/
def permute (index : Vector Nat n) (b : Vector α n) : Vector α n :=
  Vector.ofFn fun i =>
    b.get ⟨index[i] % n, Nat.mod_lt _ (Nat.zero_lt_of_lt i.isLt)⟩

/-- The index of a rotation by `r` lanes; `mask` keeps the low bits. -/
def rotation (n mask r : Nat) : Vector Nat n :=
  Vector.ofFn fun i => (i.val + r) &&& mask

section Kernels

variable [DecidableEq α]

/-- Four lanes: the rotations by one, two and three are shuffles with a fixed selector. -/
def matchFour (a b : Vector α 4) : Nat :=
  let m0 := equalLanes a b
  let m1 := equalLanes a (shuffle 0x39 b)
  let m2 := equalLanes a (shuffle 0x4e b)
  let m3 := equalLanes a (shuffle 0x93 b)
  ((m0.or m1).or (m2.or m3)).count

/-- Eight lanes, rotated by a permutation for every distance. -/
def matchEight (a b : Vector α 8) : Nat :=
  let straight := equalLanes a b
  if straight.full then 8
  else
    ((List.range' 1 7).foldl
      (fun m r => m.or (equalLanes a (permute (rotation 8 7 r) b))) straight).count

def matchSixteen (a b : Vector α 16) : Nat :=
  let straight := equalLanes a b
  if straight.full then 16
  else
    ((List.range' 1 15).foldl
      (fun m r => m.or (equalLanes a (permute (rotation 16 15 r) b))) straight).count

def kernelFour : Kernel α := fun a b => do
  return matchFour (← load 4 a) (← load 4 b)

def kernelEight : Kernel α := fun a b => do
  return matchEight (← load 8 a) (← load 8 b)

def kernelSixteen : Kernel α := fun a b => do
  return matchSixteen (← load 16 a) (← load 16 b)

/-- Sixteen lanes as four pairs of halves. Each element of `a` agrees with a lane in one half of
`b` at most when the elements of `b` differ, so the four counts add up. -/
def kernelByHalves : Kernel α := fun a b => do
  let va ← load 16 a
  let vb ← load 16 b
  let a0 ← load 8 va.toArray
  let a1 ← load 8 (va.toArray.extract 8 16)
  let b0 ← load 8 vb.toArray
  let b1 ← load 8 (vb.toArray.extract 8 16)
  return matchEight a0 b0 + matchEight a0 b1 + matchEight a1 b0 + matchEight a1 b1

end Kernels

end Motif.Intersection
