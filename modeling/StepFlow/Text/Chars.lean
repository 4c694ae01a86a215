import StepFlow.Text.CodePoints

/-!
# Character classes

The classes of characters that readers and printers of this library ask about: blanks, decimal
digits and printable characters. All three cover the whole of Unicode.

## Main definitions

* `isBlank`, `trim` — the characters that trimming removes, and trimming
* `decimalDigit?` — the value of a decimal digit of any script
* `isDigitLike` — decimal digits and the other one-digit signs, such as superscripts
* `isPrintable` — what a quoted literal shows as itself
-/

namespace StepFlow.Text

/-! ### Blanks -/

/-- Space, line ends, the information separators and the spaces of general punctuation. -/
def isBlank (c : Char) : Bool :=
  let n := c.toNat
  (0x09 ≤ n && n ≤ 0x0d) || (0x1c ≤ n && n ≤ 0x20) || n == 0x85 || n == 0xa0 || n == 0x1680
    || (0x2000 ≤ n && n ≤ 0x200a) || n == 0x2028 || n == 0x2029 || n == 0x202f || n == 0x205f
    || n == 0x3000

/-- Drop the blanks at the end. -/
def trimRight (cs : List Char) : List Char :=
  (cs.reverse.dropWhile isBlank).reverse

/-- Drop the blanks at both ends. -/
def trim (cs : List Char) : List Char :=
  trimRight (cs.dropWhile isBlank)

/-- `trim` on strings. -/
def strip (s : String) : String :=
  String.ofList (trim s.toList)

/-! ### Digits -/

/-- The value of a decimal digit, in any script. -/
def decimalDigit? (c : Char) : Option Nat :=
  (decimalZeros.find? fun z => z ≤ c.toNat && c.toNat < z + 10).map (c.toNat - ·)

/-- A decimal digit of any script. -/
def isDecimal (c : Char) : Bool :=
  (decimalDigit? c).isSome

/-- The character lies in one of some ranges. -/
def within (ranges : List (Nat × Nat)) (c : Char) : Bool :=
  ranges.any fun r => r.1 ≤ c.toNat && c.toNat ≤ r.2

/-- A sign for one digit: a decimal digit, or one of those, like a superscript, that no numeral is
made of. -/
def isDigitLike (c : Char) : Bool :=
  isDecimal c || within otherDigitRanges c

/-! ### Printable characters -/

/-- Characters that a quoted literal shows as themselves. -/
def isPrintable (c : Char) : Bool :=
  if c.toNat < 0x7f then 0x20 ≤ c.toNat else !within unprintableRanges c

end StepFlow.Text
