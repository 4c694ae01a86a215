import StepFlow.Number.Numeral
import StepFlow.Shell.Regex.Basic

/-!
# Reading regular expressions

The basic and the extended form of regular expressions. In the basic form a star at the beginning of
an expression stands for itself, and so do a caret and a dollar sign away from the ends; in the
extended form such signs are operators everywhere.

Letters whose case does not count are read as classes of both cases, so matching knows nothing of
case.

## Main definitions

* `RegexForm` — the forms
* `RegexFault` — what is wrong with a text
* `Regex.read`
-/

namespace StepFlow.Shell

/-- How a text denotes an expression. -/
structure RegexForm where
  extended : Bool := false
  ignoresCase : Bool := false
  /-- Carets and dollar signs stand for the ends of all lines in a text. -/
  multiline : Bool := false
  /-- A backslash before certain letters stands for a control character, also within classes. -/
  hasEscapes : Bool := false
  /-- In the extended form, an operator with nothing to repeat is a mistake. -/
  isStrict : Bool := false
  deriving DecidableEq, Repr, Inhabited

inductive RegexFault where
  | unmatchedBracket
  | unmatchedOpening
  | unmatchedClosing
  | unmatchedBrace
  | badInterval
  | tooBig
  | badRange
  | badClassName
  | badCollation
  | badReference
  | nothingRepeated
  | trailingBackslash
  /-- A class name between single brackets. -/
  | loneClassName
  deriving DecidableEq, Repr

def RegexFault.message : RegexFault → String
  | unmatchedBracket => "Unmatched [, [^, [:, [., or [="
  | unmatchedOpening => "Unmatched ( or \\("
  | unmatchedClosing => "Unmatched ) or \\)"
  | unmatchedBrace => "Unmatched \\\x7b"
  | badInterval => "Invalid content of \\\x7b\\\x7d"
  | tooBig => "Regular expression too big"
  | badRange => "Invalid range end"
  | badClassName => "Invalid character class name"
  | badCollation => "Invalid collation character"
  | badReference => "Invalid back reference"
  | nothingRepeated => "Invalid preceding regular expression"
  | trailingBackslash => "Trailing backslash"
  | loneClassName => "character class syntax is [[:space:]], not [:space:]"

namespace Regex

/-! ### Classes -/

/-- The named classes of characters. -/
def namedClass? : String → Option (List (Char × Char))
  | "digit" => some [('0', '9')]
  | "upper" => some [('A', 'Z')]
  | "lower" => some [('a', 'z')]
  | "alpha" => some [('A', 'Z'), ('a', 'z')]
  | "alnum" => some [('0', '9'), ('A', 'Z'), ('a', 'z')]
  | "xdigit" => some [('0', '9'), ('A', 'F'), ('a', 'f')]
  | "space" => some [('\t', '\r'), (' ', ' ')]
  | "blank" => some [('\t', '\t'), (' ', ' ')]
  | "punct" => some [('!', '/'), (':', '@'), ('[', '\x60'), ('\x7b', '~')]
  | "cntrl" => some [('\x00', '\x1f'), ('\x7f', '\x7f')]
  | "print" => some [(' ', '~')]
  | "graph" => some [('!', '~')]
  | _ => none

/-- The part of one range that lies in another, moved by a distance. -/
private def moved (low high : Char) (move : Char → Char) (r : Char × Char) : List (Char × Char) :=
  let a := if low ≤ r.1 then r.1 else low
  let b := if r.2 ≤ high then r.2 else high
  if a ≤ b then [(move a, move b)] else []

/-- Ranges with both cases of every letter. -/
def bothCases (ranges : List (Char × Char)) : List (Char × Char) :=
  ranges ++ ranges.flatMap (moved 'a' 'z' Char.toUpper) ++ ranges.flatMap (moved 'A' 'Z' Char.toLower)

/-- The control character that a letter behind a backslash stands for. -/
def controlChar? : Char → Option Char
  | 'n' => some '\n'
  | 't' => some '\t'
  | 'r' => some '\r'
  | 'f' => some '\x0c'
  | 'v' => some '\x0b'
  | 'a' => some '\x07'
  | _ => none

/-- One member of a class: a character or, between inner brackets, a named one. -/
private def classMember (form : RegexForm) : List Char → Except RegexFault (Char × List Char)
  | '[' :: mark :: rest =>
    if mark = '.' || mark = '=' then
      match rest with
      | c :: m :: ']' :: rest => if m = mark then return (c, rest) else throw .badCollation
      | _ => throw .badCollation
    else return ('[', mark :: rest)
  | '\\' :: c :: rest =>
    match if form.hasEscapes then controlChar? c else none with
    | some d => return (d, rest)
    | none => return ('\\', c :: rest)
  | c :: rest => return (c, rest)
  | [] => throw .unmatchedBracket

/-- The members of a class up to its closing bracket, and what follows. -/
private def classMembers (form : RegexForm) : (fuel : Nat) → (first : Bool) → List Char →
    Except RegexFault (List (Char × Char) × List Char)
  | 0, _, _ | _, _, [] => throw .unmatchedBracket
  | fuel + 1, first, c :: rest => do
    if c = ']' && !first then return ([], rest)
    match c, rest with
    | '[', ':' :: name =>
      let word := name.takeWhile (· ≠ ':')
      match name.drop word.length with
      | ':' :: ']' :: rest =>
        let word := String.ofList word
        let word := if form.ignoresCase && (word = "upper" || word = "lower") then "alpha" else word
        match namedClass? word with
        | none => throw .badClassName
        | some ranges =>
          let (more, rest) ← classMembers form fuel false rest
          return (ranges ++ more, rest)
      | _ => throw .unmatchedBracket
    | _, _ =>
      let (low, rest) ← classMember form (c :: rest)
      match rest with
      | '-' :: ']' :: _ =>
        let (more, rest) ← classMembers form fuel false rest
        return ((low, low) :: more, rest)
      | '-' :: rest =>
        let (high, rest) ← classMember form rest
        if high < low then throw .badRange
        let (more, rest) ← classMembers form fuel false rest
        return ((low, high) :: more, rest)
      | rest =>
        let (more, rest) ← classMembers form fuel false rest
        return ((low, low) :: more, rest)

/-- A class from behind its opening bracket on. -/
private def classAt (form : RegexForm) (cs : List Char) : Except RegexFault (Regex × List Char) := do
  let (negated, cs) := match cs with
    | '^' :: rest => (true, rest)
    | cs => (false, cs)
  let (ranges, rest) ← classMembers form (cs.length + 1) true cs
  let used := cs.take (cs.length - rest.length - 1)
  if used.length > 1 && used.head? = some ':' && used.getLast? = some ':' then throw .loneClassName
  return (oneOf negated (if form.ignoresCase then bothCases ranges else ranges), rest)

/-! ### Marks -/

/-- What an expression is written with. -/
private inductive Mark where
  | literal (c : Char)
  | any
  | bracket
  | opening
  | closing
  | bar
  | star
  | plus
  | question
  | brace
  | caret
  | dollar
  | reference (number : Nat)
  | place (p : RegexPlace)
  | oneOf (negated : Bool) (ranges : List (Char × Char))
  deriving DecidableEq

private def wordRanges : List (Char × Char) := [('0', '9'), ('A', 'Z'), ('a', 'z'), ('_', '_')]

private def spaceRanges : List (Char × Char) := [('\t', '\r'), (' ', ' ')]

/-- The mark that a character behind a backslash makes in both forms. -/
private def escapedMark (form : RegexForm) (c : Char) : Mark :=
  match c with
  | 'w' => .oneOf false wordRanges
  | 'W' => .oneOf true wordRanges
  | 's' => .oneOf false spaceRanges
  | 'S' => .oneOf true spaceRanges
  | 'b' => .place .wordEdge
  | 'B' => .place .noWordEdge
  | '<' => .place .wordStart
  | '>' => .place .wordEnd
  | '\x60' => .place .textStart
  | '\'' => .place .textEnd
  | c =>
    if '1' ≤ c && c ≤ '9' then .reference (c.toNat - 48)
    else .literal ((if form.hasEscapes then controlChar? c else none).getD c)

/-- The operator that a character is, behind a backslash in the basic form and without one in the
extended form. -/
private def movableMark? : Char → Option Mark
  | '(' => some .opening
  | ')' => some .closing
  | '|' => some .bar
  | '+' => some .plus
  | '?' => some .question
  | '\x7b' => some .brace
  | _ => none

/-- The first mark of a text. -/
private def markOf (form : RegexForm) : List Char → Except RegexFault (Option (Mark × List Char))
  | [] => return none
  | ['\\'] => throw .trailingBackslash
  | '\\' :: c :: rest =>
    if form.extended then
      match movableMark? c with
      | some _ => return some (.literal c, rest)
      | none => return some (escapedMark form c, rest)
    else return some ((movableMark? c).getD (escapedMark form c), rest)
  | c :: rest =>
    match c with
    | '.' => return some (.any, rest)
    | '[' => return some (.bracket, rest)
    | '*' => return some (.star, rest)
    | '^' => return some (.caret, rest)
    | '$' => return some (.dollar, rest)
    | c =>
      match if form.extended then movableMark? c else none with
      | some m => return some (m, rest)
      | none => return some (.literal c, rest)

/-! ### Expressions -/

/-- What has been read so far: the number of groups begun, those that are complete, and what is
unusual. -/
private structure Reading where
  begun : Nat := 0
  complete : List Nat := []
  warnings : List String := []

private abbrev ReadM := StateT Reading (Except RegexFault)

/-- The most repetitions that a text may ask for. -/
private def mostRepetitions : Nat := 32767

/-- The bounds of an interval from behind its opening brace on; `none` if there is no interval. -/
private def interval? (form : RegexForm) (cs : List Char) : Option (Nat × Option Nat × List Char) := do
  let low := cs.takeWhile Char.isDigit
  let rest := cs.drop low.length
  let value (ds : List Char) : Nat := digitsValue 10 (ds.filterMap asciiDigit?)
  let (most, rest, given) := match rest with
    | ',' :: rest =>
      let high := rest.takeWhile Char.isDigit
      (if high.isEmpty then none else some (value high), rest.drop high.length, true)
    | rest => (some (value low), rest, !low.isEmpty)
  if !given then none
  else match rest with
    | '\\' :: '\x7d' :: rest => if form.extended then none else some (value low, most, rest)
    | '\x7d' :: rest => if form.extended then some (value low, most, rest) else none
    | _ => none

/-- Repetitions behind an expression. -/
private def repetitions (form : RegexForm) : (fuel : Nat) → Regex → List Char →
    Except RegexFault (Regex × List Char)
  | 0, r, cs => return (r, cs)
  | fuel + 1, r, cs => do
    match ← markOf form cs with
    | some (.star, rest) => repetitions form fuel (.repeated 0 none r) rest
    | some (.plus, rest) => repetitions form fuel (.repeated 1 none r) rest
    | some (.question, rest) => repetitions form fuel (.repeated 0 (some 1) r) rest
    | some (.brace, rest) =>
      match interval? form rest with
      | some (least, most, rest) =>
        if most.any (· < least) then throw .badInterval
        if least > mostRepetitions || most.any (· > mostRepetitions) then throw .tooBig
        repetitions form fuel (.repeated least most r) rest
      | none =>
        if form.extended && !form.isStrict then return (r, cs)
        else throw (if rest.contains '\x7d' then .badInterval else .unmatchedBrace)
    | _ => return (r, cs)

private def literal (form : RegexForm) (c : Char) : Regex :=
  oneOf false (if form.ignoresCase then bothCases [(c, c)] else [(c, c)])

mutual

/-- Alternatives up to the end or a closing parenthesis. -/
private def alternatives (form : RegexForm) : (fuel : Nat) → (depth : Nat) → List Char →
    ReadM (Regex × List Char)
  | 0, _, _ => throw .tooBig
  | fuel + 1, depth, cs => do
    let (r, rest) ← items form fuel depth true cs
    match ← markOf form rest with
    | some (.bar, rest) =>
      let (s, rest) ← alternatives form fuel depth rest
      return (.either r s, rest)
    | _ => return (r, rest)
termination_by structural fuel => fuel

/-- What stands one after the other. -/
private def items (form : RegexForm) : (fuel : Nat) → (depth : Nat) → (atStart : Bool) → List Char →
    ReadM (Regex × List Char)
  | 0, _, _, _ => throw .tooBig
  | fuel + 1, depth, atStart, cs => do
    let followed (r : Regex) (rest : List Char) : ReadM (Regex × List Char) := do
      let (r, rest) ← repetitions form (rest.length + 1) r rest
      let (s, rest) ← items form fuel depth false rest
      return (.sequence r s, rest)
    let nothingBefore (sign : String) (rest : List Char) : ReadM (Regex × List Char) := do
      if form.isStrict then throw .nothingRepeated
      modify fun s => { s with warnings := s.warnings ++ [sign ++ " at start of expression"] }
      items form fuel depth true rest
    match ← markOf form cs with
    | none => return (.empty, [])
    | some (mark, rest) =>
      match mark with
      | .literal c => followed (literal form c) rest
      | .any => followed anyChar rest
      | .oneOf negated ranges => followed (.oneOf negated ranges) rest
      | .place p => followed (.place p) rest
      | .bracket =>
        let (r, rest) ← classAt form rest
        followed r rest
      | .bar => return (.empty, cs)
      | .closing =>
        if depth = 0 then
          if form.extended && !form.isStrict then followed (.oneOf false [(')', ')')]) rest
          else throw .unmatchedClosing
        else return (.empty, cs)
      | .opening =>
        let number := (← get).begun + 1
        modify fun s => { s with begun := number }
        let (r, rest) ← alternatives form fuel (depth + 1) rest
        match ← markOf form rest with
        | some (.closing, rest) =>
          modify fun s => { s with complete := number :: s.complete }
          followed (.group number r) rest
        | _ => throw .unmatchedOpening
      | .reference number =>
        if (← get).complete.contains number then followed (.same form.ignoresCase number) rest
        else throw .badReference
      | .caret =>
        if atStart || form.extended then
          let edge := Regex.place (if form.multiline then .lineStart else .textStart)
          let (s, rest) ← items form fuel depth true rest
          return (.sequence edge s, rest)
        else followed (.char '^') rest
      | .dollar =>
        let atEnd := match ← markOf form rest with
          | none | some (.bar, _) | some (.closing, _) => true
          | _ => false
        if atEnd || form.extended then
          followed (.place (if form.multiline then .lineEnd else .textEnd)) rest
        else followed (.char '$') rest
      | .star =>
        if atStart then
          if form.extended then nothingBefore "*" rest else followed (.char '*') rest
        else followed (.char '*') rest
      | .plus => if form.extended then nothingBefore "+" rest else followed (.char '+') rest
      | .question => if form.extended then nothingBefore "?" rest else followed (.char '?') rest
      | .brace =>
        match interval? form rest with
        | some (_, _, rest) =>
          if form.extended then nothingBefore "\x7b...\x7d" rest
          else throw .nothingRepeated
        | none =>
          if form.extended && !form.isStrict then followed (.char '\x7b') rest
          else throw (if form.extended then .nothingRepeated else .unmatchedBrace)
termination_by structural fuel => fuel

end

/-- The expression that a text denotes, and what is unusual about it. -/
def read (form : RegexForm) (text : List Char) : Except RegexFault (Regex × List String) := do
  let ((r, _), found) ← (alternatives form (4 * text.length + 4) 0 text).run {}
  return (r, found.warnings)

/-- The expression for a text that stands for itself. -/
def ofText (ignoresCase : Bool) (text : List Char) : Regex :=
  text.foldr (fun c r => .sequence (literal { ignoresCase } c) r) empty

/-- The number of groups in an expression. -/
def groupCount : Regex → Nat
  | .group n r => max n r.groupCount
  | .sequence r s | .either r s => max r.groupCount s.groupCount
  | .repeated _ _ r => r.groupCount
  | _ => 0

end Regex

end StepFlow.Shell
