import StepFlow.Number.Power

/-!
# Double-precision numbers as exact values

A `Double` is a binary floating-point number of 53 bits of precision, given by the exact value it
stands for: a sign, a mantissa and a power of two. Arithmetic is exact arithmetic followed by one
rounding, to nearest with ties to even, so every statement about it is a statement about integers.

## Main definitions

* `Double` — finite values, the two infinities and "not a number"
* `Double.round` — the double nearest to a quotient of natural numbers
* `Double.ofInt`, `add`, `mul`, `div` — rounded operations
* `Double.compareInt`, `Double.compare?` — exact comparison
-/

namespace StepFlow

/-- A double-precision number. A finite one stands for `± mantissa * 2 ^ exponent`. -/
inductive Double where
  | finite (negative : Bool) (mantissa : Nat) (exponent : Int)
  | infinite (negative : Bool)
  | nan
  deriving DecidableEq, Repr, Inhabited

namespace Double

/-! ### Rounding -/

/-- The integer nearest to `num / den`; a tie goes to the even one. -/
def roundDiv (num den : Nat) : Nat :=
  let q := num / den
  let r := num % den
  if 2 * r < den then q
  else if den < 2 * r then q + 1
  else if q % 2 = 0 then q else q + 1

/-- The least exponent of a double. -/
def minExponent : Int := -1074

/-- The greatest exponent of a double whose mantissa has all 53 bits. -/
def maxExponent : Int := 971

/-- `num / den` divided by `2 ^ e`, as a fraction. -/
def shifted (num den : Nat) (e : Int) : Nat × Nat :=
  if 0 ≤ e then (num, den * twoTo e.toNat) else (num * twoTo (-e).toNat, den)

/-- The zero of a given sign. -/
def zero (negative : Bool) : Double := .finite negative 0 minExponent

/-- The double nearest to `± num / den`; a tie goes to the even mantissa, and what lies beyond the
finite doubles is infinite. -/
def round (negative : Bool) (num den : Nat) : Double :=
  if num = 0 then zero negative
  else
    -- `num / den` lies strictly between `2 ^ (k - 1)` and `2 ^ (k + 1)`.
    let k : Int := (Nat.log2 num : Int) - Nat.log2 den
    let low := k - 53
    let (n, d) := shifted num den low
    let e := max minExponent (if n / d < twoTo 53 then low else low + 1)
    let (n, d) := shifted num den e
    let m := roundDiv n d
    let (m, e) := if m = twoTo 53 then (twoTo 52, e + 1) else (m, e)
    if maxExponent < e then .infinite negative else .finite negative m e

/-- The double nearest to an integer; infinite when the integer is out of range. -/
def ofInt (n : Int) : Double := round (n < 0) n.natAbs 1

/-- The double nearest to an integer, if there is a finite one. -/
def ofInt? (n : Int) : Option Double :=
  match ofInt n with
  | .infinite _ => none
  | x => some x

/-! ### Exact values -/

def isNegative : Double → Bool
  | finite s _ _ => s
  | infinite s => s
  | nan => false

/-- Either zero. -/
def isZero : Double → Bool
  | finite _ m _ => m == 0
  | _ => false

/-- The exact value of a finite double as a fraction. -/
def fraction? : Double → Option (Int × Nat)
  | finite s m e =>
    let sign : Int := if s then -1 else 1
    some (if 0 ≤ e then (sign * (m * twoTo e.toNat : Nat), 1) else (sign * m, twoTo (-e).toNat))
  | _ => none

private def ofFraction (num : Int) (den : Nat) (zeroSign : Bool) : Double :=
  round (if num = 0 then zeroSign else num < 0) num.natAbs den

/-! ### Arithmetic -/

def neg : Double → Double
  | finite s m e => finite (!s) m e
  | infinite s => infinite (!s)
  | nan => nan

def add (x y : Double) : Double :=
  match x, y with
  | nan, _ | _, nan => nan
  | infinite s, infinite t => if s == t then infinite s else nan
  | infinite s, _ => infinite s
  | _, infinite t => infinite t
  | x, y =>
    match x.fraction?, y.fraction? with
    | some (a, b), some (c, d) => ofFraction (a * d + c * b) (b * d) (x.isNegative && y.isNegative)
    | _, _ => nan

def mul (x y : Double) : Double :=
  let s := x.isNegative != y.isNegative
  match x, y with
  | nan, _ | _, nan => nan
  | infinite _, y => if y.isZero then nan else infinite s
  | x, infinite _ => if x.isZero then nan else infinite s
  | x, y =>
    match x.fraction?, y.fraction? with
    | some (a, b), some (c, d) => round s (a * c).natAbs (b * d)
    | _, _ => nan

/-- Quotient by a finite non-zero number; "not a number" in every other case but that of an infinite
dividend. -/
def div (x y : Double) : Double :=
  let s := x.isNegative != y.isNegative
  match x, y with
  | infinite _, finite .. => infinite s
  | x, y =>
    match x.fraction?, y.fraction? with
    | some (a, b), some (c, d) => if c = 0 then nan else round s (a * d).natAbs (b * c.natAbs)
    | _, _ => nan

/-- The integer part of a finite double, toward zero. -/
def truncate? (x : Double) : Option Int :=
  x.fraction?.map fun (a, b) => a.tdiv b

/-! ### Comparison -/

/-- Exact comparison; "not a number" compares with nothing. -/
def compare? : Double → Double → Option Ordering
  | nan, _ | _, nan => none
  | infinite s, infinite t => some (if s == t then .eq else if s then .lt else .gt)
  | infinite s, _ => some (if s then .lt else .gt)
  | _, infinite t => some (if t then .gt else .lt)
  | x, y =>
    match x.fraction?, y.fraction? with
    | some (a, b), some (c, d) => some (Ord.compare (a * d) (c * b))
    | _, _ => none

/-- Exact comparison with an integer. -/
def compareInt? (x : Double) (n : Int) : Option Ordering :=
  match x with
  | nan => none
  | infinite s => some (if s then .lt else .gt)
  | x => x.fraction?.map fun (a, b) => Ord.compare a (n * b)

end Double

end StepFlow
