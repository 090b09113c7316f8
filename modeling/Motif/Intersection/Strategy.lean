import Motif.Intersection.Kernels

/-!
Choosing how two neighbor lists are intersected: how many lanes are compared at once, and which
kernels match the blocks. Every choice counts the same on strictly ascending arrays.
-/

set_option autoImplicit false

namespace Motif.Intersection

/-- How many elements are compared at once. -/
inductive Width where
  | one
  | four
  | eight
  | sixteen
deriving DecidableEq

namespace Width

def all : List Width := [.one, .four, .eight, .sixteen]

def lanes : Width → Nat
  | .one => 1
  | .four => 4
  | .eight => 8
  | .sixteen => 16

/-- Widths are ordered by their number of lanes. -/
instance : LE Width := ⟨fun a b => a.lanes ≤ b.lanes⟩

instance (a b : Width) : Decidable (a ≤ b) := Nat.decLe a.lanes b.lanes

/-- The widths that are not wider than this one. -/
def upTo (w : Width) : List Width := all.filter (fun narrower => decide (narrower ≤ w))

end Width

/-- Which wide instructions a processor has. -/
structure Processor where
  sse2 : Bool
  avx2 : Bool
  avx512f : Bool
deriving DecidableEq

/-- The widest lanes a processor supports. -/
def Processor.width (p : Processor) : Width :=
  if p.avx512f then .sixteen
  else if p.avx2 then .eight
  else if p.sse2 then .four
  else .one

/-- A kernel for every number of lanes above one. -/
structure Kernels (α : Type) where
  four : Kernel α
  eight : Kernel α
  sixteen : Kernel α

variable {α : Type} [DecidableEq α]

def Kernels.portable : Kernels α := ⟨portableKernel 4, portableKernel 8, portableKernel 16⟩

/-- The kernels a processor has instructions for, and the portable ones where it has none. -/
def Kernels.native? (p : Processor) : Option (Kernels α) :=
  if p.sse2 then
    some
      ⟨kernelFour,
       if p.avx2 then kernelEight else portableKernel 8,
       if p.avx512f then kernelSixteen
       else if p.avx2 then kernelByHalves
       else portableKernel 16⟩
  else none

variable [LT α] [DecidableLT α]

/-- The loops of a merge. For every number of lanes, the widest first, both sides are compared
block by block, and then what one side has left is walked along the full blocks of the other;
single elements come last. -/
def loops (width : Width) (kernels : Kernels α) (u v : Array α) : List (Loop u v) :=
  let pass (w : Width) {lanes : Nat} (hl : 0 < lanes) (kernel : Kernel α) :=
    if w ≤ width then
      [Loop.blocks u v hl kernel, Loop.alongU u v hl, Loop.alongV u v hl]
    else []
  pass .sixteen (by decide : 0 < 16) kernels.sixteen ++
    pass .eight (by decide : 0 < 8) kernels.eight ++
    pass .four (by decide : 0 < 4) kernels.four ++
    [Loop.scalar u v]

/-- How many elements of `u` and `v` are found equal. -/
def size (width : Width) (kernels : Kernels α) (u v : Array α) : Except Error Nat := do
  let c ← Loop.runAll (loops width kernels u v) .start
  return c.total

/-- A way to count the elements that two strictly ascending arrays share. -/
structure Strategy (α : Type) where
  width : Width
  kernels : Kernels α
  native : Bool

namespace Strategy

omit [LT α] [DecidableLT α] in
def portable (width : Width) : Strategy α := ⟨width, .portable, false⟩

def scalar : Strategy α := portable .one

/-- Lanes of this width, matched by the processor's instructions where it has any. -/
def ofWidth (p : Processor) (width : Width) : Strategy α :=
  match Kernels.native? p with
  | some kernels => ⟨width, kernels, true⟩
  | none => portable width

def detect (p : Processor) : Strategy α := ofWidth p p.width

/-- Single elements are never compared by wide instructions. -/
def isNative (s : Strategy α) : Bool := s.native && s.width ≠ .one

def size (s : Strategy α) (u v : Array α) : Except Error Nat :=
  Intersection.size s.width s.kernels u v

end Strategy

end Motif.Intersection
