import StepFlow.Number.Double

/-!
# Shortest decimals

The text of a double is the shortest decimal that reads back as the same double and, among the
shortest, the one nearest to the exact value.

`shortest?` finds the digits. The reals that round to a double form an interval, and for one, two,
… digits the two neighbours of the exact value on the grid of that many digits are tried; the first
grid with a point in the interval decides. Seventeen digits always suffice.

`Double.text` lays the digits out: positional from `1e-4` up to below `1e16`, with an exponent of at
least two digits elsewhere.
-/

namespace StepFlow

/-! ### Digits -/

/-- The decimal digits of a natural number, most significant first. -/
def decimalDigits (n : Nat) : List Char := Nat.toDigits 10 n

/-- A decimal `digits * 10 ^ power`. -/
structure Decimal where
  digits : Nat
  power : Int
  deriving DecidableEq, Repr

namespace Decimal

/-- `digits * 10 ^ power` as a fraction. -/
def fraction (x : Decimal) : Nat × Nat :=
  if 0 ≤ x.power then (x.digits * tenTo x.power.toNat, 1) else (x.digits, tenTo (-x.power).toNat)

/-- The same number with no zero at the end of its digits, by at most `fuel` steps. -/
def withoutZeros : (fuel : Nat) → Decimal → Decimal
  | 0, x => x
  | fuel + 1, x =>
    if x.digits ≠ 0 && x.digits % 10 = 0 then withoutZeros fuel ⟨x.digits / 10, x.power + 1⟩ else x

end Decimal

/-- `a / b < c / d`, for positive denominators. -/
private def fractionLt (x y : Nat × Nat) : Bool := x.1 * y.2 < y.1 * x.2

/-- The decimals that read back as `mantissa * 2 ^ exponent`: those between the midpoints to the two
neighbouring doubles, which themselves belong to an even mantissa. -/
structure RoundingInterval where
  low : Nat × Nat
  high : Nat × Nat
  closed : Bool

namespace RoundingInterval

def of (mantissa : Nat) (exponent : Int) : RoundingInterval :=
  -- Below a power of two the doubles lie twice as close.
  let below := if mantissa = twoTo 52 && Double.minExponent < exponent then 1 else 2
  let scale (n : Nat) : Nat × Nat :=
    if 2 ≤ exponent then (n * twoTo (exponent - 2).toNat, 1) else (n, twoTo (2 - exponent).toNat)
  ⟨scale (4 * mantissa - below), scale (4 * mantissa + 2), mantissa % 2 = 0⟩

def contains (i : RoundingInterval) (x : Nat × Nat) : Bool :=
  if i.closed then !fractionLt x i.low && !fractionLt i.high x
  else fractionLt i.low x && fractionLt x i.high

end RoundingInterval

/-- The least `k` with `num / den < 10 ^ k`. -/
private def magnitude (num den : Nat) : Int :=
  let k : Int := (decimalDigits num).length - (decimalDigits den).length
  if fractionLt (num, den) (Decimal.fraction ⟨1, k⟩) then k else k + 1

/-- The point of the interval nearest to `num / den` among its two neighbours on the grid of
multiples of `10 ^ power`; the even one when both are equally near. -/
private def gridPoint? (i : RoundingInterval) (num den : Nat) (power : Int) : Option Decimal :=
  let (n, d) := if 0 ≤ power then (num, den * tenTo power.toNat) else (num * tenTo (-power).toNat, den)
  let q := n / d
  let r := n % d
  let lower : Decimal := ⟨q, power⟩
  let upper : Decimal := ⟨q + 1, power⟩
  match i.contains lower.fraction, i.contains upper.fraction with
  | true, true =>
    if 2 * r < d then lower else if d < 2 * r then upper else if q % 2 = 0 then lower else upper
  | true, false => lower
  | false, true => upper
  | false, false => none

/-- The shortest decimal that reads back as `mantissa * 2 ^ exponent`, nearest to it among those. -/
def shortest? (mantissa : Nat) (exponent : Int) : Option Decimal :=
  let (num, den) :=
    if 0 ≤ exponent then (mantissa * twoTo exponent.toNat, 1) else (mantissa, twoTo (-exponent).toNat)
  let k := magnitude num den
  let i := RoundingInterval.of mantissa exponent
  (List.range 17).findSome? fun n =>
    (gridPoint? i num den (k - (n + 1 : Nat))).map (Decimal.withoutZeros 17)

/-! ### Layout -/

/-- Digits with the decimal point before the digit number `point`. -/
private def positional (digits : List Char) (point : Int) : List Char :=
  if point ≤ 0 then '0' :: '.' :: (List.replicate (-point).toNat '0' ++ digits)
  else
    let p := point.toNat
    if digits.length ≤ p then digits ++ List.replicate (p - digits.length) '0' ++ ['.', '0']
    else digits.take p ++ '.' :: digits.drop p

/-- Digits with the point after the first one and an exponent. -/
private def exponential (digits : List Char) (exponent : Int) : List Char :=
  let e := decimalDigits exponent.natAbs
  let e := if e.length < 2 then '0' :: e else e
  let significand := match digits with
    | [] => []
    | [d] => [d]
    | d :: ds => d :: '.' :: ds
  significand ++ 'e' :: (if exponent < 0 then '-' else '+') :: e

namespace Double

/-- The text of a finite non-negative double. -/
private def magnitudeText (mantissa : Nat) (exponent : Int) : List Char :=
  match shortest? mantissa exponent with
  | some x =>
    let digits := decimalDigits x.digits
    let point := (digits.length : Int) + x.power
    if mantissa = 0 then ['0', '.', '0']
    else if -4 < point && point ≤ 16 then positional digits point
    else exponential digits (point - 1)
  | none => ['0', '.', '0']

/-- The shortest text that reads back as the same double. -/
def text : Double → String
  | finite s m e => String.ofList ((if s then ['-'] else []) ++ magnitudeText m e)
  | infinite s => if s then "-inf" else "inf"
  | nan => "nan"

/-- The text of a finite double has a point, or the sign of an exponent. -/
theorem exists_mark_of_finite (s : Bool) (m : Nat) (e : Int) :
    ∃ c ∈ (text (finite s m e)).toList, c = '.' ∨ c = '+' ∨ c = '-' := by
  have hpositional (digits : List Char) (point : Int) : '.' ∈ positional digits point := by
    unfold positional
    split
    · simp
    · dsimp only
      split <;> simp
  have hexponential (digits : List Char) (exponent : Int) :
      ∃ c ∈ exponential digits exponent, c = '.' ∨ c = '+' ∨ c = '-' := by
    refine ⟨if exponent < 0 then '-' else '+', by simp [exponential], ?_⟩
    split
    · exact .inr (.inr rfl)
    · exact .inr (.inl rfl)
  obtain ⟨c, hc, hmark⟩ : ∃ c ∈ magnitudeText m e, c = '.' ∨ c = '+' ∨ c = '-' := by
    unfold magnitudeText
    split
    · dsimp only
      split
      · exact ⟨'.', by simp, .inl rfl⟩
      · split
        · exact ⟨'.', hpositional _ _, .inl rfl⟩
        · exact hexponential _ _
    · exact ⟨'.', by simp, .inl rfl⟩
  exact ⟨c, by simp [text, hc], hmark⟩

end Double

end StepFlow
