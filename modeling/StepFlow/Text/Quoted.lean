import StepFlow.Text.Chars
import StepFlow.Number.Shortest

/-!
# Quoted literals

A quoted literal shows a text between quotes, on one line and in printable characters. The quotes
are single unless the text holds a single quote and no double one. The quote itself, the backslash
and the unprintable characters are escaped.

Byte sequences have literals of the same form, with the mark `b` in front; only ASCII shows as
itself there.
-/

namespace StepFlow.Text

/-- Lower-case hexadecimal digits of `n`, at least `width` of them. -/
def hexDigits (width n : Nat) : List Char :=
  let ds := Nat.toDigits 16 n
  List.replicate (width - ds.length) '0' ++ ds

namespace Quoted

/-- The quote to put around a text. -/
def quoteFor (cs : List Char) : Char :=
  if cs.contains '\'' && !cs.contains '"' then '"' else '\''

/-- One character of a literal between quotes `q`. -/
def escapeChar (q c : Char) : List Char :=
  if c = q || c = '\\' then ['\\', c]
  else if c = '\t' then ['\\', 't']
  else if c = '\n' then ['\\', 'n']
  else if c = '\r' then ['\\', 'r']
  else if isPrintable c then [c]
  else if c.toNat < 0x100 then '\\' :: 'x' :: hexDigits 2 c.toNat
  else if c.toNat < 0x10000 then '\\' :: 'u' :: hexDigits 4 c.toNat
  else '\\' :: 'U' :: hexDigits 8 c.toNat

/-- The quoted literal of a text. -/
def encode (cs : List Char) : List Char :=
  let q := quoteFor cs
  q :: (cs.flatMap (escapeChar q) ++ [q])

/-- One byte of a literal between quotes `q`. -/
def escapeByte (q : Char) (b : UInt8) : List Char :=
  let c := Char.ofNat b.toNat
  if b.toNat < 0x7f then escapeChar q c else '\\' :: 'x' :: hexDigits 2 b.toNat

/-- The quoted literal of a byte sequence. -/
def encodeBytes (bs : List UInt8) : List Char :=
  let q := quoteFor (bs.map fun b => Char.ofNat b.toNat)
  'b' :: q :: (bs.flatMap (escapeByte q) ++ [q])

end Quoted

/-- The quoted literal of a string. -/
def quoted (s : String) : String :=
  String.ofList (Quoted.encode s.toList)

/-- The quoted literals of a list of strings, between brackets. -/
def quotedList (xs : List String) : String :=
  "[" ++ ", ".intercalate (xs.map quoted) ++ "]"

end StepFlow.Text
