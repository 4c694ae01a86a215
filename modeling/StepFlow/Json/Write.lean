import StepFlow.Json.Read
import StepFlow.Value.Display

/-!
# Writing JSON

A value as JSON text, on one line or indented, with or without ASCII escapes. Dates, times, bytes
and failure actions have no form of their own in JSON and are written as the string of their text.
Sets have none either. Keys are strings; scalar keys that are not strings are written as the string of
their JSON form, and other keys cannot be written. Nor can a collection that holds itself.

Halves of surrogate pairs are escapes in ASCII. On one line they are replacement characters.

A mapping keeps the order of its entries. Infinities and "not a number" are written as `Infinity`,
`-Infinity` and `NaN`.

A value whose collections lie more than `nestingLimit` deep in one another is not written: reading
would not follow it.
-/

namespace StepFlow.Json

open Text (hexDigits)

/-- How JSON text is laid out. -/
structure Style where
  /-- Write characters beyond ASCII as escapes. -/
  asciiOnly : Bool
  /-- Spaces for each level of nesting; on one line when absent. -/
  indent : Option Nat
  deriving DecidableEq, Repr

/-- On one line, with every character as itself. -/
def Style.inline : Style := ⟨false, none⟩

/-- In ASCII, each element on a line of its own, two spaces for each level. -/
def Style.indented : Style := ⟨true, some 2⟩

/-! ### Strings -/

/-- A four-digit escape. -/
def unicodeEscape (n : Nat) : List Char := '\\' :: 'u' :: hexDigits 4 n

/-- One character inside a JSON string. -/
def escapeChar (asciiOnly : Bool) (c : Char) : List Char :=
  if c = '"' || c = '\\' then ['\\', c]
  else if c = '\n' then ['\\', 'n']
  else if c = '\r' then ['\\', 'r']
  else if c = '\t' then ['\\', 't']
  else if c = '\x08' then ['\\', 'b']
  else if c = '\x0c' then ['\\', 'f']
  else if c.toNat < 0x20 then unicodeEscape c.toNat
  else if asciiOnly && 0x7f ≤ c.toNat then
    if c.toNat < 0x10000 then unicodeEscape c.toNat
    else
      -- Beyond the basic plane a character is a pair of surrogates.
      let n := c.toNat - 0x10000
      unicodeEscape (0xd800 + n / 0x400) ++ unicodeEscape (0xdc00 + n % 0x400)
  else [c]

/-- A JSON string. -/
def string (asciiOnly : Bool) (cs : List Char) : List Char :=
  '"' :: (cs.flatMap (escapeChar asciiOnly) ++ ['"'])

/-- A JSON string with halves of surrogate pairs. -/
def roughString (asciiOnly : Bool) (t : RoughText) : List Char :=
  if asciiOnly then
    let written (n : Nat) : List Char :=
      if isHalf n then unicodeEscape n else escapeChar true (Char.ofNat n)
    '"' :: (t.points.flatMap written ++ ['"'])
  else string false t.smoothed.toList

/-! ### Values -/

/-- The JSON form of a number. -/
def doubleText (x : Double) : List Char :=
  match x with
  | .infinite s => if s then "-Infinity".toList else "Infinity".toList
  | .nan => "NaN".toList
  | x => x.text.toList

/-- The JSON form of an integer. -/
def integer (n : Int) : Except Fault (List Char) :=
  match integerText n with
  | .ok s => return s.toList
  | .error e => throw (.number e)

/-- The text of a key. -/
def keyText : Value → Except Fault (List Char)
  | .str s => return s.toList
  | .double x => return doubleText x
  | .bool b => return if b then "true".toList else "false".toList
  | .null => return "null".toList
  | .int n => integer n
  | v => throw (.wrongKind
      s!"keys must be str, int, float, bool or None, not {v.kind}")

/-- A key as a JSON string. -/
def keyString (asciiOnly : Bool) : Value → Except Fault (List Char)
  | .rough t => return roughString asciiOnly t
  | k => return string asciiOnly (← keyText k)

/-- Elements between brackets, each written at the given depth. -/
def bracketed (style : Style) (depth : Nat) (left right : Char) (items : List (List Char)) :
    List Char :=
  match style.indent, items with
  | _, [] => [left, right]
  | none, items => left :: (", ".toList.intercalate items ++ [right])
  | some n, items =>
    let line (d : Nat) : List Char := '\n' :: List.replicate (n * d) ' '
    left :: (line (depth + 1) ++ (',' :: line (depth + 1)).intercalate items ++ line depth ++ [right])

/-- The string that stands for a value without a JSON form. -/
def textForm (style : Style) (v : Value) : Except Fault (List Char) :=
  return string style.asciiOnly (← v.text).toList

mutual

/-- A value at a given depth of nesting. -/
def value (style : Style) (depth : Nat) : Value → Except Fault (List Char)
  | .null => return "null".toList
  | .bool b => return if b then "true".toList else "false".toList
  | .int n => integer n
  | .double x => return doubleText x
  | .str s => return string style.asciiOnly s.toList
  | .rough t => return roughString style.asciiOnly t
  | .list xs | .tuple xs => do
    requireRoom nestingLimit depth
    return bracketed style depth '[' ']' (← elements style (depth + 1) xs)
  | .map kvs => do
    requireRoom nestingLimit depth
    return bracketed style depth '\x7b' '\x7d' (← entries style (depth + 1) kvs)
  | .date d => textForm style (.date d)
  | .time t => textForm style (.time t)
  | .bytes bs => textForm style (.bytes bs)
  | .set xs => textForm style (.set xs)
  | .action a => textForm style (.action a)
  | .knot _ body => value style depth body
  | .loop _ => throw .circular

/-- The elements of a list. -/
def elements (style : Style) (depth : Nat) : List Value → Except Fault (List (List Char))
  | [] => return []
  | x :: xs => return (← value style depth x) :: (← elements style depth xs)

/-- The entries of a mapping. -/
def entries (style : Style) (depth : Nat) :
    List (Value × Value) → Except Fault (List (List Char))
  | [] => return []
  | (k, v) :: kvs => do
    let key ← keyString style.asciiOnly k
    let body ← value style depth v
    return (key ++ ':' :: ' ' :: body) :: (← entries style depth kvs)

end

/-- A value as JSON text. -/
def write (style : Style) (v : Value) : Except Fault String :=
  return String.ofList (← value style 0 v)

end StepFlow.Json
