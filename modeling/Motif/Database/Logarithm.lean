/-!
Numbers that are known by their sizes alone: as logarithms to the base two, times ten. They tell how
much work is expected, so that products are sums and sums are close enough.
-/

set_option autoImplicit false

namespace Motif.Database

/-- A logarithm to the base two, times ten. -/
abbrev Logarithm := Int

def logarithm (n : Nat) : Logarithm :=
  if n < 2 then 0
  else
    let exponent := n.log2
    let digits := if exponent < 3 then n <<< (3 - exponent) else n >>> (exponent - 3)
    ([0, 2, 3, 5, 6, 7, 8, 9][digits - 8]?).getD 0 + 10 * Int.ofNat exponent

namespace Logarithm

def growth (distance : Nat) : Logarithm :=
  if 49 < distance then 0
  else if 31 < distance then 1
  else
    let most := [1, 3, 5, 8, 11, 14, 18, 24, 31]
    10 - Int.ofNat (most.countP (· < distance))

def plus (a b : Logarithm) : Logarithm :=
  if b ≤ a then a + growth (a - b).toNat else b + growth (b - a).toNat

def halvings (a : Logarithm) : Logarithm := if a ≤ 10 then 0 else logarithm a.toNat - 33

end Logarithm

end Motif.Database
