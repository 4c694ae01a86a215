import StepFlow.Shell.Programs.Rules.Basic
import StepFlow.Shell.Programs.Format

/-!
# Values and tables of rules

A value is a number or a text. Texts that come from outside count as numbers if they look like them.
Tables map texts to values; a whole number stands for its decimal text as a key. The order in which a
loop goes through a table is that of a hash of the keys, and of keys that share a place in it the one
that was named last comes first.

## Main definitions

* `Datum`, `Datum.chars`, `Datum.number`, `Datum.order`
* `formatted` — texts by a format
* `Table`
-/

namespace StepFlow.Shell.Rules

/-- A value. -/
inductive Datum where
  | unset
  | number (x : Double)
  | text (s : List Char)
  /-- A text from outside. -/
  | input (s : List Char)
  deriving DecidableEq, Repr, Inhabited

/-! ### Numbers -/

/-- The greatest integer in whole. -/
private def greatest : Nat := twoTo 63 - 1

/-- The integer part of a number, within the bounds of 64 bits. -/
def wholeOf (x : Double) : Int :=
  match x.truncate? with
  | some n => max (-(greatest : Int)) (min (greatest : Int) n)
  | none => match x with
    | .infinite false => greatest
    | _ => -(greatest : Int)

/-- The integer that a number is, if it is one that has a text of its own. -/
def integer? (x : Double) : Option Int :=
  let n := wholeOf x
  if Double.ofInt n = x || (n = 0 && x.isZero) then some n else none

/-- A number that the whole text denotes, blanks around it aside. -/
def numeralValue? (cs : List Char) : Option Double :=
  let isSpace (c : Char) : Bool := c = ' ' || c = '\t' || c = '\n' || c = '\r'
  let cs := cs.dropWhile isSpace
  let (x, rest) := leadingDouble cs
  if rest.length < cs.length && rest.all isSpace then some x else none

namespace Datum

/-- The number that a value denotes: for a text, the one at its beginning. -/
def value : Datum → Double
  | unset => .zero false
  | number x => x
  | text s | input s => (leadingDouble s).1

/-- The value counts as a number. -/
def isNumeric : Datum → Bool
  | unset | number _ => true
  | text _ => false
  | input s => (numeralValue? s).isSome

def isTrue : Datum → Bool
  | unset => false
  | number x => !x.isZero
  | text s => !s.isEmpty
  | input s =>
    match numeralValue? s with
    | some x => !x.isZero
    | none => !s.isEmpty

def ofBool (b : Bool) : Datum := number (.ofInt (if b then 1 else 0))

def ofNat (n : Nat) : Datum := number (.ofInt n)

end Datum

/-! ### Formats -/

/-- The text of a number by a conversion for decimals. -/
private def decimalChars (c : Conversion) (x : Double) : List Char :=
  if x = .nan then (c.pad (bytesOf "-nan")).map fun b => Char.ofNat b.toNat else c.decimalText x

/-- Bytes of one conversion, filled up to its width. -/
private def padded (c : Conversion) (cs : List Char) : List Char :=
  charsOf (c.pad (bytesOfChars cs))

/-- A number in a format: digits or a star for the next value. -/
private def measureOf (cs : List Char) (values : List Datum) : Option Int × List Char × List Datum :=
  match cs, values with
  | '*' :: rest, v :: values => (some (wholeOf v.value), rest, values)
  | '*' :: rest, [] => (none, rest, [])
  | cs, values =>
    let ds := cs.takeWhile Char.isDigit
    ((natOf? (String.ofList ds)).map Int.ofNat, cs.drop ds.length, values)

/-- Why values cannot be written by a format. -/
inductive FormatFault where
  | missingValue
  /-- The number of the conversion that is none. -/
  | badConversion (number : Nat)
  deriving DecidableEq, Repr

/-- Values by a format: the text as far as it can be written, and what is wrong. `plain` writes a
number where a text is asked for; `count` is the number of conversions so far. -/
def formatted (plain : Double → List Char) : (fuel count : Nat) → List Char → List Datum →
    List Char × Option FormatFault
  | 0, _, _, _ | _, _, [], _ => ([], none)
  | fuel + 1, count, '%' :: '%' :: rest, values =>
    let (more, fault) := formatted plain fuel count rest values
    ('%' :: more, fault)
  | fuel + 1, count, '%' :: rest, values =>
    let flags := rest.takeWhile "-0+ #".toList.contains
    let (width, rest, values) := measureOf (rest.drop flags.length) values
    let (precision, rest, values) := match rest with
      | '.' :: rest =>
        let (n, rest, values) := measureOf rest values
        (some (n.getD 0), rest, values)
      | rest => (none, rest, values)
    let rest := rest.dropWhile fun c => c = 'l' || c = 'h'
    match rest with
    | [] => ([], some (.badConversion (count + 1)))
    | letter :: rest =>
      let width := width.getD 0
      let c : Conversion :=
        { left := flags.contains '-' || width < 0, zero := flags.contains '0'
          plus := flags.contains '+', space := flags.contains ' ', alternate := flags.contains '#'
          width := width.natAbs, letter
          precision := precision.bind fun n => if n < 0 then none else some n.toNat }
      if !"sciduoxXeEfFgG".toList.contains letter then ([], some (.badConversion (count + 1)))
      else match values with
        | [] => ([], some .missingValue)
        | v :: values =>
          let written := match letter with
            | 's' =>
              let s := match v with
                | .unset => []
                | .number x => plain x
                | .text s | .input s => s
              padded c ((c.precision.map s.take).getD s)
            | 'c' =>
              match v with
              | .number x => padded c [Char.ofNat ((wholeOf x).emod 256).toNat]
              | .unset => padded c ['\x00']
              | .text s | .input s => padded c [s.headD '\x00']
            | 'd' | 'i' => c.integerText (wholeOf v.value)
            | 'o' | 'u' | 'x' | 'X' => c.naturalText ((wholeOf v.value).emod (twoTo 64)).toNat
            | _ => decimalChars c v.value
          let (more, fault) := formatted plain fuel (count + 1) rest values
          (written ++ more, fault)
  | fuel + 1, count, c :: rest, values =>
    let (more, fault) := formatted plain fuel count rest values
    (c :: more, fault)

/-- The text of a number: whole numbers as they are, others by a format. -/
def numberChars (format : List Char) (x : Double) : List Char :=
  match integer? x with
  | some n => (toString n).toList
  | none => (formatted (fun _ => []) (format.length + 1) 0 format [.number x]).1

namespace Datum

/-- The text of a value; `format` is for numbers that are not whole. -/
def chars (format : List Char) : Datum → List Char
  | unset => []
  | number x => numberChars format x
  | text s | input s => s

/-- The order of two values: as numbers if both count as such, and else as texts. -/
def order (format : List Char) (a b : Datum) : Ordering :=
  if a.isNumeric && b.isNumeric then (a.value.compare? b.value).getD .lt
  else
    let s := a.chars format
    let t := b.chars format
    if s = t then .eq else if bytesLe (bytesOfChars s) (bytesOfChars t) then .lt else .gt

end Datum

/-! ### Tables -/

/-- An element of a table. -/
structure TableEntry where
  key : List Char
  value : Datum
  /-- It has been named by its text. -/
  isNamed : Bool
  /-- It has been named by its number. -/
  isCounted : Bool
  deriving DecidableEq, Repr, Inhabited

/-- A mapping from texts to values. The entries named last come first. -/
structure Table where
  entries : List TableEntry := []
  /-- Some key has been named by its text. -/
  hasTexts : Bool := false
  deriving DecidableEq, Repr, Inhabited

namespace Table

/-- The places of a hash over which keys are spread. -/
private def places (size : Nat) : (fuel places : Nat) → Nat
  | 0, n => n
  | fuel + 1, n => if size ≤ 12 * n then n else places size fuel (2 * n)

private def placesOf (t : Table) : Nat := places t.entries.length 32 64

/-- A hash of a key: each byte is mixed into the hash of those before it. -/
private def hash (key : List Char) : Nat :=
  key.foldl (fun h c => ((h ^^^ c.toNat) * 16777619) % twoTo 32) 2166136261

/-- Give every key its text. -/
def withTexts (t : Table) : Table :=
  if t.hasTexts then t
  else
    let n := t.placesOf
    let place (e : TableEntry) : Nat := (leadingInteger e.key).1.emod n |>.toNat
    let sorted := t.entries.mergeSort fun a b => place a ≤ place b
    ⟨sorted.reverse.map ({ · with isNamed := true }), true⟩

/-- The table after the element of a key has been looked for by its text, which makes it if it is not
there and is to be made. -/
private def touchText (t : Table) (key : List Char) (isCounted makes : Bool) : Table :=
  let t := t.withTexts
  match t.entries.find? (·.key = key) with
  | some e =>
    { t with entries :=
        { e with isCounted := e.isCounted || isCounted } :: t.entries.filter (·.key ≠ key) }
  | none => if makes then { t with entries := ⟨key, .unset, true, isCounted⟩ :: t.entries } else t

/-- The table after the element of a key has been looked for. -/
def touch (t : Table) (key : List Char) (isCounted makes : Bool) : Table :=
  if !isCounted then t.touchText key false makes
  else if t.entries.any fun e => e.key = key && e.isCounted then t
  else if t.hasTexts then t.touchText key true makes
  else if makes then { t with entries := ⟨key, .unset, false, true⟩ :: t.entries }
  else t

def get? (t : Table) (key : List Char) : Option Datum := (t.entries.find? (·.key = key)).map (·.value)

/-- Put a value in the place of one that is there. -/
def set (t : Table) (key : List Char) (value : Datum) : Table :=
  { t with entries := t.entries.map fun e => if e.key = key then { e with value } else e }

def erase (t : Table) (key : List Char) : Table :=
  { t with entries := t.entries.filter (·.key ≠ key) }

/-- The keys in the order of loops. -/
def keys (t : Table) : List (List Char) :=
  let t := t.withTexts
  let n := t.placesOf
  ((t.entries.map fun e => (hash e.key % n, e.key)).mergeSort fun a b => a.1 ≤ b.1).map (·.2)

/-- The table of parts with their numbers as keys, from one on. -/
def ofParts (parts : List Datum) : Table :=
  ⟨(parts.zipIdx.map fun (d, i) => ⟨(toString (i + 1)).toList, d, false, true⟩), false⟩

end Table

end StepFlow.Shell.Rules
