import StepFlow.Fault
import StepFlow.Text.Chars

/-!
# Reading numerals

Integers and decimals as they are written in text. Blanks around a numeral do not count, a sign may
come first, digits may be those of any script, and one underscore may stand between two digits.

## Main definitions

* `digitsValue` — the value of a digit sequence in a base
* `readInteger` — an integer in decimal notation, of at most `digitLimit` digits
* `readDouble` — the double nearest to a decimal
-/

namespace StepFlow

open Text (trim decimalDigit? isDecimal)

/-- The value of digits given most significant first. -/
def digitsValue (base : Nat) (digits : List Nat) : Nat :=
  digits.foldl (fun acc d => acc * base + d) 0

/-- The value of an ASCII digit or letter as a digit. -/
def asciiDigit? (c : Char) : Option Nat :=
  if '0' ≤ c && c ≤ '9' then some (c.toNat - '0'.toNat)
  else if 'a' ≤ c && c ≤ 'f' then some (c.toNat - 'a'.toNat + 10)
  else if 'A' ≤ c && c ≤ 'F' then some (c.toNat - 'A'.toNat + 10)
  else none

/-- The value of a digit in a base, of any script. -/
def digitIn? (base : Nat) (c : Char) : Option Nat :=
  match (decimalDigit? c).orElse fun _ => asciiDigit? c with
  | some d => if d < base then some d else none
  | none => none

/-- Digits with at most one underscore between two of them. -/
def separatedDigits? (base : Nat) : List Char → Option (List Nat)
  | [] => none
  | [c] => (digitIn? base c).map ([·])
  | c :: '_' :: cs => do
    let d ← digitIn? base c
    let ds ← separatedDigits? base cs
    return d :: ds
  | c :: cs => do
    let d ← digitIn? base c
    let ds ← separatedDigits? base cs
    return d :: ds

/-- A sign, and what follows it. -/
def splitSign : List Char → Bool × List Char
  | '-' :: cs => (true, cs)
  | '+' :: cs => (false, cs)
  | cs => (false, cs)

/-- The digits of a numeral without the mark of its base: `0b`, `0o` and `0x` in the bases 2, 8 and
16. -/
def withoutBaseMark (base : Nat) : List Char → List Char
  | '0' :: m :: ds =>
    let mark := m.toLower
    if (base = 2 && mark = 'b') || (base = 8 && mark = 'o') || (base = 16 && mark = 'x') then ds
    else '0' :: m :: ds
  | ds => ds

/-- The integer that a text denotes in a base. -/
def readIntegerIn (base : Nat) (cs : List Char) : Except NumberFault Int :=
  let (negative, body) := splitSign (trim cs)
  match separatedDigits? base (withoutBaseMark base body) with
  | none => throw (.notInteger base (String.ofList cs))
  | some ds =>
    if base = 10 && digitLimit < ds.length then throw (.tooLongToRead ds.length)
    else
      let n := digitsValue base ds
      return if negative then -n else n

/-- The integer that a text denotes in decimal notation. -/
def readInteger (cs : List Char) : Except NumberFault Int :=
  readIntegerIn 10 cs

/-! ### Decimals -/

/-- Digits with at most one underscore between two of them, possibly none. -/
def optionalDigits? (cs : List Char) : Option (List Nat) :=
  if cs.isEmpty then some [] else separatedDigits? 10 cs

/-- A text with the capital letters of ASCII made small. -/
def asciiLowered (cs : List Char) : List Char := cs.map Char.toLower

/-- Split at the first character that satisfies `p`, which is dropped. -/
def splitFirst (p : Char → Bool) (cs : List Char) : List Char × Option (List Char) :=
  match cs.span (!p ·) with
  | (before, []) => (before, none)
  | (before, _ :: after) => (before, some after)

/-- The double nearest to `± digits * 10 ^ exponent`. Exponents far outside the range of doubles are
decided without their powers. -/
def Double.ofDecimal (negative : Bool) (digits : Nat) (exponent : Int) : Double :=
  if digits = 0 then .zero negative
  else
    let magnitude := (decimalDigits digits).length + exponent
    if 400 < magnitude then .infinite negative
    else if magnitude < -400 then .zero negative
    else if 0 ≤ exponent then .round negative (digits * tenTo exponent.toNat) 1
    else .round negative digits (tenTo (-exponent).toNat)

/-- The unsigned part of a decimal. -/
def readMagnitude? (negative : Bool) (cs : List Char) : Option Double :=
  if asciiLowered cs = "inf".toList || asciiLowered cs = "infinity".toList then
    some (.infinite negative)
  else if asciiLowered cs = "nan".toList then some .nan
  else do
    let (mantissa, exponent) := splitFirst (fun c => c = 'e' || c = 'E') cs
    let (whole, fraction) := splitFirst (· = '.') mantissa
    let whole ← optionalDigits? whole
    let fraction ← optionalDigits? (fraction.getD [])
    if whole.isEmpty && fraction.isEmpty then failure
    let e ← match exponent with
      | none => some 0
      | some cs => do
        let (negative, body) := splitSign cs
        let n := digitsValue 10 (← separatedDigits? 10 body)
        some (if negative then -(n : Int) else n)
    return .ofDecimal negative (digitsValue 10 (whole ++ fraction)) (e - fraction.length)

/-- The double that a text denotes. -/
def readDouble (cs : List Char) : Except NumberFault Double :=
  let (negative, body) := splitSign (trim cs)
  match readMagnitude? negative body with
  | some x => return x
  | none => throw (.notDecimal (String.ofList cs))

end StepFlow
