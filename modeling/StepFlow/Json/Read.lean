import StepFlow.Number.Numeral
import StepFlow.Text.Pieces
import StepFlow.Value.Basic

/-!
# Reading JSON

JSON text as a value. The grammar is that of the standard, with three additions: `NaN`, `Infinity`
and `-Infinity` are numbers. Control characters may not stand in strings, numbers are ASCII, and
numerals without fraction and exponent are integers of at most `digitLimit` digits. Of two entries
with one key the later value counts. Collections may lie in one another up to a depth of
`nestingLimit`.

Readers take the remaining text and give back what follows the value they have read.
-/

namespace StepFlow.Json

open Text (after?)

/-- Drop the blanks of JSON. -/
def skipBlanks (cs : List Char) : List Char :=
  cs.dropWhile fun c => c = ' ' || c = '\t' || c = '\n' || c = '\r'

/-! ### Strings -/

/-- The number that four hexadecimal digits denote, and what follows them. -/
def hexQuad? : List Char → Option (Nat × List Char)
  | a :: b :: c :: d :: cs => do
    let n := digitsValue 16 [← asciiDigit? a, ← asciiDigit? b, ← asciiDigit? c, ← asciiDigit? d]
    return (n, cs)
  | _ => none

/-- The character that a one-letter escape denotes. -/
def simpleEscape? : Char → Option Char
  | '"' => some '"'
  | '\\' => some '\\'
  | '/' => some '/'
  | 'b' => some '\x08'
  | 'f' => some '\x0c'
  | 'n' => some '\n'
  | 'r' => some '\r'
  | 't' => some '\t'
  | _ => none

/-- The second half of a surrogate pair, as an escape, and what follows it. -/
def lowSurrogate? : List Char → Option (Nat × List Char)
  | '\\' :: 'u' :: cs => do
    let (n, cs) ← hexQuad? cs
    if 0xdc00 ≤ n && n ≤ 0xdfff then some (n, cs) else none
  | _ => none

/-- The number of the character that `\u` escapes denote, once `n` has been read: two halves of a pair
make one character, and half a pair alone stands for itself. -/
def unicodePoint (n : Nat) (cs : List Char) : Nat × List Char :=
  if 0xd800 ≤ n && n ≤ 0xdbff then
    match lowSurrogate? cs with
    | some (low, rest) => (0x10000 + (n - 0xd800) * 0x400 + (low - 0xdc00), rest)
    | none => (n, cs)
  else (n, cs)

/-- The numbers of the characters of a string up to the closing quote. Every call reads at least one
character, so the length of the text is `fuel` enough. -/
def stringBody : (fuel : Nat) → List Char → Except Fault (List Nat × List Char)
  | 0, _ => throw .notJson
  | fuel + 1, cs =>
    match cs with
    | '"' :: rest => return ([], rest)
    | '\\' :: 'u' :: rest =>
      match hexQuad? rest with
      | some (n, rest) => do
        let (point, rest) := unicodePoint n rest
        let (body, rest) ← stringBody fuel rest
        return (point :: body, rest)
      | none => throw .notJson
    | '\\' :: e :: rest =>
      match simpleEscape? e with
      | some c => do
        let (body, rest) ← stringBody fuel rest
        return (c.toNat :: body, rest)
      | none => throw .notJson
    | c :: rest =>
      if c.toNat < 0x20 || c = '\\' then throw .notJson
      else do
        let (body, rest) ← stringBody fuel rest
        return (c.toNat :: body, rest)
    | [] => throw .notJson

/-! ### Numbers -/

/-- The digits at the beginning of a text, and what follows them. -/
def spanDigits (cs : List Char) : List Char × List Char :=
  cs.span Char.isDigit

/-- A minus, if the text begins with one, and what follows it. -/
def takeMinus : List Char → List Char × List Char
  | '-' :: rest => (['-'], rest)
  | cs => ([], cs)

/-- A sign and the digits of a numeral: a single zero, or digits that do not begin with one. -/
def integerPart? (cs : List Char) : Option (List Char × List Char) :=
  let (sign, cs) := takeMinus cs
  match cs with
  | '0' :: rest => some (sign ++ ['0'], rest)
  | cs =>
    match spanDigits cs with
    | ([], _) => none
    | (ds, rest) => some (sign ++ ds, rest)

/-- A point and digits, if the text begins with them. -/
def fractionPart (cs : List Char) : List Char × List Char :=
  match cs with
  | '.' :: rest =>
    match spanDigits rest with
    | ([], _) => ([], cs)
    | (ds, rest) => ('.' :: ds, rest)
  | cs => ([], cs)

/-- The sign of an exponent, if the text begins with one, and what follows it. -/
def takeSign : List Char → List Char × List Char
  | '+' :: rest => (['+'], rest)
  | '-' :: rest => (['-'], rest)
  | cs => ([], cs)

/-- An exponent, if the text begins with one. -/
def exponentPart (cs : List Char) : List Char × List Char :=
  match cs with
  | e :: rest =>
    if e = 'e' || e = 'E' then
      let (sign, body) := takeSign rest
      match spanDigits body with
      | ([], _) => ([], cs)
      | (ds, rest) => ('e' :: sign ++ ds, rest)
    else ([], cs)
  | [] => ([], cs)

/-- A number. -/
def number (cs : List Char) : Except Fault (Value × List Char) :=
  match integerPart? cs with
  | none => throw .notJson
  | some (whole, rest) =>
    let (fraction, rest) := fractionPart rest
    let (exponent, rest) := exponentPart rest
    if fraction.isEmpty && exponent.isEmpty then
      match readInteger whole with
      | .ok n => return (.int n, rest)
      | .error e => throw (.number e)
    else
      match readDouble (whole ++ fraction ++ exponent) with
      | .ok x => return (.double x, rest)
      | .error e => throw (.number e)

/-! ### Values -/

/-- The words of JSON. -/
def words : List (String × Value) :=
  [("null", .null), ("true", .bool true), ("false", .bool false), ("NaN", .double .nan),
    ("Infinity", .double (.infinite false)), ("-Infinity", .double (.infinite true))]

/-- A word at the beginning of a text, and what follows it. -/
def word? (cs : List Char) : Option (Value × List Char) :=
  words.findSome? fun w => (after? w.1.toList cs).map fun rest => (w.2, rest)

mutual

/-- A value; collections in it may lie `room` deep. Every second call reads at least one character. -/
def readValue (room : Nat) : (fuel : Nat) → List Char → Except Fault (Value × List Char)
  | 0, _ => throw .notJson
  | fuel + 1, cs =>
    match cs with
    | '"' :: rest => do
      let (s, rest) ← stringBody (rest.length + 1) rest
      return (.ofPoints s, rest)
    | '[' :: rest =>
      if room = 0 then throw .tooDeep
      else match skipBlanks rest with
        | ']' :: rest => return (.list [], rest)
        | rest => do
          let (xs, rest) ← readElements (room - 1) fuel rest
          return (.list xs, rest)
    | '\x7b' :: rest =>
      if room = 0 then throw .tooDeep
      else match skipBlanks rest with
        | '\x7d' :: rest => return (.map [], rest)
        | rest => do
          let (kvs, rest) ← readEntries (room - 1) fuel rest
          return (.map (Value.entriesOf kvs), rest)
    | cs =>
      match word? cs with
      | some found => return found
      | none => number cs

/-- The elements of a list up to the closing bracket. -/
def readElements (room : Nat) : (fuel : Nat) → List Char → Except Fault (List Value × List Char)
  | 0, _ => throw .notJson
  | fuel + 1, cs => do
    let (x, rest) ← readValue room fuel cs
    match skipBlanks rest with
    | ',' :: rest => do
      let (xs, rest) ← readElements room fuel (skipBlanks rest)
      return (x :: xs, rest)
    | ']' :: rest => return ([x], rest)
    | _ => throw .notJson

/-- The entries of a mapping up to the closing brace. -/
def readEntries (room : Nat) :
    (fuel : Nat) → List Char → Except Fault (List (Value × Value) × List Char)
  | 0, _ => throw .notJson
  | fuel + 1, cs =>
    match cs with
    | '"' :: rest => do
      let (k, rest) ← stringBody (rest.length + 1) rest
      match skipBlanks rest with
      | ':' :: rest => do
        let (v, rest) ← readValue room fuel (skipBlanks rest)
        match skipBlanks rest with
        | ',' :: rest => do
          let (kvs, rest) ← readEntries room fuel (skipBlanks rest)
          return ((.ofPoints k, v) :: kvs, rest)
        | '\x7d' :: rest => return ([(.ofPoints k, v)], rest)
        | _ => throw .notJson
      | _ => throw .notJson
    | _ => throw .notJson

end

/-- The value that a JSON text denotes. -/
def read (cs : List Char) : Except Fault Value := do
  let cs := skipBlanks cs
  let (v, rest) ← readValue nestingLimit (2 * cs.length + 2) cs
  if (skipBlanks rest).isEmpty then return v else throw .notJson

end StepFlow.Json
