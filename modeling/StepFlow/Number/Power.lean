/-!
# Powers of two and ten

The powers that numbers are scaled by.

## Main definitions

* `twoTo`, `tenTo`
-/

namespace StepFlow

/-- A power of two. -/
def twoTo (n : Nat) : Nat := Nat.pow 2 n

/-- A power of ten. -/
def tenTo (n : Nat) : Nat := Nat.pow 10 n

theorem tenTo_le_tenTo {m n : Nat} (h : m ≤ n) : tenTo m ≤ tenTo n :=
  Nat.pow_le_pow_right (by decide) h

end StepFlow
