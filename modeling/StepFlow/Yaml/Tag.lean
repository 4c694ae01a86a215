import StepFlow.Number.Numeral
import StepFlow.Text.Pieces

/-!
# Tags of YAML and the forms of plain scalars

A tag says what a node means. A scalar that stands without quotes and without a tag gets its tag from
its form: `12` is an integer, `1.5` a decimal, `yes` a Boolean, `2025-01-02` a date. What has no
special form is text.

Numerals may contain underscores. Integers are also written in base 2, 8 or 16, and integers and
decimals in base 60 with colons between the places.
-/

namespace StepFlow.Yaml

open Text (after?)

/-- What a node means. -/
inductive Tag where
  | null
  | bool
  | int
  | float
  | binary
  | timestamp
  | pairs
  | set
  | str
  | seq
  | map
  /-- The key `<<`, under which a mapping takes over the entries of others. -/
  | merge
  /-- The key `=`, which holds the value of a mapping that stands for a scalar. -/
  | value
  | other (name : String)
  deriving DecidableEq, Repr, Inhabited

namespace Tag

/-- What the names of the standard tags begin with. -/
def standardSpace : String := "tag:yaml.org,2002:"

/-- The standard tags by the ends of their names. -/
def standard : List (String × Tag) :=
  [("null", null), ("bool", bool), ("int", int), ("float", float), ("binary", binary),
   ("timestamp", timestamp), ("omap", pairs), ("pairs", pairs), ("set", set), ("str", str), ("seq", seq),
   ("map", map), ("merge", merge), ("value", value)]

/-- The tag of a given name. -/
def ofName (name : String) : Tag :=
  match after? standardSpace.toList name.toList with
  | some ending => (standard.find? (·.1.toList = ending)).elim (other name) (·.2)
  | none => other name

end Tag

/-! ### Numerals -/

/-- A digit or an underscore. -/
private def isSpacedDigit (c : Char) : Bool := c.isDigit || c = '_'

/-- A hexadecimal digit. -/
private def isHexDigit (c : Char) : Bool := (asciiDigit? c).isSome

/-- One of the sixty numerals for a place in base 60, with or without a leading zero. -/
private def isSixtieth : List Char → Bool
  | [a] => a.isDigit
  | [a, b] => '0' ≤ a && a ≤ '5' && b.isDigit
  | _ => false

/-- The pieces of a text between colons. -/
def colonParts (cs : List Char) : List (List Char) := cs.splitOn ':'

/-- The form of integers. -/
def isInteger (cs : List Char) : Bool :=
  match (splitSign cs).2 with
  | ['0'] => true
  | '0' :: 'b' :: ds => !ds.isEmpty && ds.all fun c => c = '0' || c = '1' || c = '_'
  | '0' :: 'x' :: ds => !ds.isEmpty && ds.all fun c => isHexDigit c || c = '_'
  | '0' :: ds => ds.all fun c => ('0' ≤ c && c ≤ '7') || c = '_'
  | d :: ds =>
    d.isDigit && match colonParts ds with
      | [] => true
      | first :: places => first.all isSpacedDigit && places.all isSixtieth
  | [] => false

/-- An exponent with its sign, or nothing. -/
private def isExponent : List Char → Bool
  | [] => true
  | e :: s :: ds =>
    (e = 'e' || e = 'E') && (s = '-' || s = '+') && !ds.isEmpty && ds.all Char.isDigit
  | _ => false

/-- The form of decimals: a point, with digits before it or, without a sign, behind it. -/
private def isPointed (cs : List Char) : Bool :=
  match cs with
  | '.' :: d :: rest => d.isDigit && isExponent (rest.dropWhile isSpacedDigit)
  | _ =>
    match (splitSign cs).2 with
    | d :: rest =>
      d.isDigit && match rest.dropWhile isSpacedDigit with
        | '.' :: rest => isExponent (rest.dropWhile isSpacedDigit)
        | _ => false
    | [] => false

/-- The form of decimals in base 60. The last place has a point. -/
private def isSixtyPointed (cs : List Char) : Bool :=
  match (splitSign cs).2 with
  | d :: rest =>
    d.isDigit && match colonParts rest with
      | first :: place :: places =>
        let (places, last) := ((place :: places).dropLast, ((place :: places).getLast?).getD [])
        let (whole, fraction) := last.span (· ≠ '.')
        first.all isSpacedDigit && places.all isSixtieth && isSixtieth whole
          && !fraction.isEmpty && (fraction.drop 1).all isSpacedDigit
      | _ => false
  | [] => false

/-- The form of decimals, and the names of the numbers that are none. -/
def isDecimalForm (cs : List Char) : Bool :=
  isPointed cs || isSixtyPointed cs
    || [".nan", ".NaN", ".NAN"].contains (String.ofList cs)
    || [".inf", ".Inf", ".INF"].contains (String.ofList (splitSign cs).2)

/-! ### Truth values and null -/

/-- The words for truth values. -/
def truthWords : List (String × Bool) :=
  [("yes", true), ("no", false), ("true", true), ("false", false), ("on", true), ("off", false)]

/-- A word in lower case, in upper case or with a capital. -/
private def spellings (word : String) : List String :=
  [word, word.capitalize, word.map Char.toUpper]

def isTruthForm (text : String) : Bool :=
  truthWords.any fun w => (spellings w.1).contains text

def isNullForm (text : String) : Bool := text = "~" || text = "" || (spellings "null").contains text

/-! ### Dates and times -/

/-- A date as it is written, and the time of day if there is one. -/
structure Timestamp where
  year : Nat
  /-- Month and day, as they are written. -/
  month : List Char
  day : List Char
  /-- Hour, minute and second. -/
  time : Option (Nat × Nat × Nat)
  /-- The digits behind the second. -/
  fraction : List Char
  /-- The minutes by which the time is ahead of UTC, if it says so. -/
  ahead : Option Int
  deriving Repr

private def number (cs : List Char) : Nat := digitsValue 10 (cs.filterMap asciiDigit?)

/-- The value of one or two digits. -/
def Timestamp.part (cs : List Char) : Nat := number cs

/-- At least `least` and at most `most` digits, and what follows. -/
private def someDigits (least most : Nat) (cs : List Char) : Option (List Char × List Char) :=
  let ds := (cs.take most).takeWhile Char.isDigit
  if ds.length < least then none else some (ds, cs.drop ds.length)

/-- How far the time is ahead of UTC: `Z`, or hours with or without minutes. -/
private def timeZone? : List Char → Option (Option Int)
  | [] => some none
  | ['Z'] => some (some 0)
  | s :: rest => do
    guard (s = '-' || s = '+')
    let (hours, rest) ← someDigits 1 2 rest
    let minutes ← match rest with
      | [] => some ['0']
      | ':' :: rest => do
        let (minutes, rest) ← someDigits 2 2 rest
        if rest.isEmpty then some minutes else none
      | _ => none
    let n : Int := number hours * 60 + number minutes
    return some (if s = '-' then -n else n)

private def isSpaceOrTab (c : Char) : Bool := c = ' ' || c = '\t'

/-- The time of day behind a date: `T` or blanks, then hour, minute and second. -/
private def timeOfDay? (cs : List Char) :
    Option ((Nat × Nat × Nat) × List Char × Option Int) := do
  let rest ← match cs with
    | c :: rest =>
      if c = 'T' || c = 't' then some rest
      else if isSpaceOrTab c then some (rest.dropWhile isSpaceOrTab)
      else none
    | [] => none
  let (hour, rest) ← someDigits 1 2 rest
  let (minute, rest) ← someDigits 2 2 (← after? [':'] rest)
  let (second, rest) ← someDigits 2 2 (← after? [':'] rest)
  let (fraction, rest) := match rest with
    | '.' :: rest => rest.span Char.isDigit
    | rest => ([], rest)
  let zone := rest.dropWhile isSpaceOrTab
  if zone.isEmpty && !rest.isEmpty then none
  return ((number hour, number minute, number second), fraction, ← timeZone? zone)

/-- The date or time that a text is written as. -/
def timestamp? (cs : List Char) : Option Timestamp := do
  let (year, rest) ← someDigits 4 4 cs
  let (month, rest) ← someDigits 1 2 (← after? ['-'] rest)
  let (day, rest) ← someDigits 1 2 (← after? ['-'] rest)
  if rest.isEmpty then return ⟨number year, month, day, none, [], none⟩
  let (time, fraction, ahead) ← timeOfDay? rest
  return ⟨number year, month, day, some time, fraction, ahead⟩

/-- The form of dates and times. A date alone has two digits for month and day. -/
def isTimestampForm (cs : List Char) : Bool :=
  match timestamp? cs with
  | some t => t.time.isSome || (t.month.length = 2 && t.day.length = 2)
  | none => false

/-- Signs of YAML that alone are no text. -/
def isLoneSign (text : String) : Bool := text = "!" || text = "&" || text = "*"

/-- The tag that a text without a line end has by its form. -/
def Tag.ofLine (text : String) : Tag :=
  let cs := text.toList
  if isTruthForm text then .bool
  else if isDecimalForm cs then .float
  else if isInteger cs then .int
  else if text = "<<" then .merge
  else if isNullForm text then .null
  else if isTimestampForm cs then .timestamp
  else if text = "=" then .value
  else if isLoneSign text then .other (Tag.standardSpace ++ "yaml")
  else .str

/-- The text without the line end that it ends in, if it does. -/
def withoutLineEnd (cs : List Char) : List Char :=
  if cs.getLast? = some '\n' then cs.dropLast else cs

/-- The tag that a scalar has by its form. A line end behind a form does not count. -/
def Tag.ofForm (text : String) : Tag :=
  if text = "\n" then .str else .ofLine (String.ofList (withoutLineEnd text.toList))

end StepFlow.Yaml
