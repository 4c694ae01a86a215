import StepFlow.Number.Double

/-!
# Numbers with a chosen number of digits

Three ways to write a quotient of natural numbers: with a number of places behind the point, with one
digit before the point and a power of ten, or in whichever of these ways suits its size. Digits are
those of the nearest such number; a tie goes to the even one.

## Main definitions

* `fixedText`, `scientificText`, `generalText`
-/

namespace StepFlow

/-- The exponent of the first digit of a quotient that is not zero. -/
def leadingExponent (num den : Nat) : Int :=
  let k : Int := ((Nat.toDigits 10 num).length : Int) - (Nat.toDigits 10 den).length
  let reaches (e : Int) : Bool :=
    if 0 ≤ e then den * tenTo e.toNat ≤ num else den ≤ num * tenTo (-e).toNat
  if reaches k then k else k - 1

/-- One digit before the point, a number of places behind it, and the exponent: the digits as one
number, and the exponent. -/
def scientific (places num den : Nat) : Nat × Int :=
  if num = 0 then (0, 0)
  else
    let e := leadingExponent num den
    let shift : Int := places - e
    let m := if 0 ≤ shift then Double.roundDiv (num * tenTo shift.toNat) den
      else Double.roundDiv num (den * tenTo (-shift).toNat)
    if m = tenTo (places + 1) then (tenTo places, e + 1) else (m, e)

/-- A natural number in at least so many digits. -/
private def paddedDigits (count n : Nat) : List Char :=
  let ds := Nat.toDigits 10 n
  List.replicate (count - ds.length) '0' ++ ds

/-- Digits with a point before the last places. -/
private def pointed (places : Nat) (keepsPoint : Bool) (digits : Nat) : List Char :=
  let ds := paddedDigits (places + 1) digits
  let whole := ds.take (ds.length - places)
  if places = 0 then whole ++ (if keepsPoint then ['.'] else [])
  else whole ++ '.' :: ds.drop (ds.length - places)

/-- A quotient with a number of places behind the point. -/
def fixedText (places : Nat) (keepsPoint : Bool) (num den : Nat) : List Char :=
  pointed places keepsPoint (Double.roundDiv (num * tenTo places) den)

/-- A power of ten behind digits. -/
private def exponentText (e : Int) : List Char :=
  'e' :: (if e < 0 then '-' else '+') :: paddedDigits 2 e.natAbs

/-- A quotient with one digit before the point, a number of places behind it, and a power of ten. -/
def scientificText (places : Nat) (keepsPoint : Bool) (num den : Nat) : List Char :=
  let (m, e) := scientific places num den
  pointed places keepsPoint m ++ exponentText e

/-- The digits before and behind a point without zeros at the end. -/
private def withoutEndZeros (cs : List Char) : List Char :=
  if cs.contains '.' then
    ((cs.reverse.dropWhile (· = '0')).dropWhile (· = '.')).reverse
  else cs

/-- A quotient with a number of digits in all: with a power of ten if it is very small or has more
digits before the point. Zeros at the end are left out unless they are to be kept. -/
def generalText (digits : Nat) (keepsZeros : Bool) (num den : Nat) : List Char :=
  let digits := max digits 1
  let (m, e) := scientific (digits - 1) num den
  let trimmed (cs : List Char) : List Char := if keepsZeros then cs else withoutEndZeros cs
  if -4 ≤ e && e < digits then
    trimmed (fixedText (digits - 1 - e).toNat keepsZeros num den)
  else trimmed (pointed (digits - 1) keepsZeros m) ++ exponentText e

end StepFlow
