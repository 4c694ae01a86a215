import StepFlow.Fault
import StepFlow.Number.Numeral
import StepFlow.Yaml.Cursor

/-!
# The text of scalars

Scalars are written in three ways: between quotes, plain, and as indented blocks behind `|` or `>`.
The readers here give the text of a scalar and the cursor behind it. Lines are folded in quoted and
plain scalars and in blocks behind `>`: a single line end becomes a space, and of several the first
one drops out.

Loops take the length of the remaining text as fuel, since every round passes over a character.
-/

namespace StepFlow.Yaml

/-- The text is no YAML. -/
def malformed {α : Type} : Except Fault α := throw .notYaml

/-! ### Quoted scalars -/

/-- The character that a one-letter escape denotes. -/
def escape? : Char → Option Char
  | '0' => some '\x00'
  | 'a' => some '\x07'
  | 'b' => some '\x08'
  | 't' => some '\t'
  | '\t' => some '\t'
  | 'n' => some '\n'
  | 'v' => some '\x0b'
  | 'f' => some '\x0c'
  | 'r' => some '\r'
  | 'e' => some '\x1b'
  | ' ' => some ' '
  | '"' => some '"'
  | '\\' => some '\\'
  | '/' => some '/'
  | 'N' => some '\x85'
  | '_' => some '\xa0'
  | 'L' => some '\u2028'
  | 'P' => some '\u2029'
  | _ => none

/-- The number of hexadecimal digits that follow an escape letter. -/
def escapeWidth? : Char → Option Nat
  | 'x' => some 2
  | 'u' => some 4
  | 'U' => some 8
  | _ => none

/-- The character of a code point; half a surrogate pair alone is unreadable. -/
def codePoint (n : Nat) : Except Fault Char :=
  if twoTo 31 ≤ n then throw (.foreign "OverflowError" "code point too large")
  else if 0x110000 ≤ n then throw (.calendar "chr() arg not in range(0x110000)")
  else if 0xd800 ≤ n && n ≤ 0xdfff then return '\ufffd'
  else return Char.ofNat n

/-- Empty lines inside a quoted scalar, with the blanks before and after them. -/
def quotedBreaks : (fuel : Nat) → Cursor → Except Fault (List Char × Cursor)
  | 0, c => return ([], c)
  | fuel + 1, c =>
    if c.atDocumentMark then malformed
    else
      let c := c.skipWhile fun ch => ch = ' ' || ch = '\t'
      match c.lineBreak? with
      | some (b, c) => do
        let (bs, c) ← quotedBreaks fuel c
        return (b :: bs, c)
      | none => return ([], c)

/-- Blanks and line ends inside a quoted scalar, folded. -/
def quotedGap (c : Cursor) : Except Fault (List Char × Cursor) := do
  let (blanks, c) := c.takeWhile fun ch => ch = ' ' || ch = '\t'
  if c.rest.isEmpty then malformed
  match c.lineBreak? with
  | some (b, c) =>
    let (bs, c) ← quotedBreaks (c.rest.length + 1) c
    let first := if b ≠ '\n' then [b] else if bs.isEmpty then [' '] else []
    return (first ++ bs, c)
  | none => return (blanks, c)

/-- An escape in a double-quoted scalar, from the backslash on. -/
def quotedEscape (c : Cursor) : Except Fault (List Char × Cursor) := do
  let c := c.next
  match escape? c.peek with
  | some ch => return ([ch], c.next)
  | none =>
    match escapeWidth? c.peek with
    | some width =>
      let digits := c.next.rest.take width
      match digits.mapM asciiDigit? with
      | some ds =>
        if ds.length < width then malformed
        let ch ← codePoint (digitsValue 16 ds)
        return ([ch], c.next.skip width)
      | none => malformed
    | none =>
      match c.lineBreak? with
      | some (_, c) => quotedBreaks (c.rest.length + 1) c
      | none => malformed

/-- A quoted scalar behind its opening quote. -/
def quotedRest (quote : Char) : (fuel : Nat) → Cursor → Except Fault (List Char × Cursor)
  | 0, _ => malformed
  | fuel + 1, c => do
    let double := quote = '"'
    if c.peek = quote && !(!double && c.peekAt 1 = quote) then return ([], c.next)
    let (chunk, c) ←
      if !double && c.peek = '\'' then pure (['\''], c.skip 2)
      else if double && c.peek = '\\' then quotedEscape c
      else if c.rest.isEmpty || isGapOrEnd c.peek then quotedGap c
      else pure ([c.peek], c.next)
    let (text, c) ← quotedRest quote fuel c
    return (chunk ++ text, c)

/-- A quoted scalar. -/
def quotedScalar (c : Cursor) : Except Fault (List Char × Cursor) :=
  quotedRest c.peek (c.rest.length + 1) c.next

/-! ### Plain scalars -/

/-- The characters of a plain scalar up to the next gap. A colon before a gap ends it, and so do the
signs of flow collections inside one. -/
def plainWord (flow : Bool) : List Char → List Char
  | [] => []
  | ch :: rest =>
    let after := rest.headD '\x00'
    if isGapOrEnd ch then []
    else if ch = ':' && (isGapOrEnd after || (flow && ",[]\x7b\x7d".toList.contains after)) then []
    else if flow && ",?[]\x7b\x7d".toList.contains ch then []
    else ch :: plainWord flow rest

/-- What separates two words of a plain scalar. -/
inductive PlainGap where
  /-- Nothing that belongs to the scalar. -/
  | none
  /-- Blanks or folded lines; `newLine` tells whether a line ended. -/
  | text (chars : List Char) (newLine : Bool)
  /-- A line end and then a document mark. -/
  | mark

/-- Line ends and the spaces between them; `none` at a document mark. -/
def plainBreaks : (fuel : Nat) → Cursor → Option (List Char) × Cursor
  | 0, c => (some [], c)
  | fuel + 1, c =>
    if c.peek = ' ' then plainBreaks fuel c.next
    else match c.lineBreak? with
      | some (b, c) =>
        if c.atDocumentMark then (none, c)
        else
          let (bs, c) := plainBreaks fuel c
          (bs.map (b :: ·), c)
      | none => (some [], c)

/-- The gap behind a word of a plain scalar. Tabs are no gap. -/
def plainGap (c : Cursor) : PlainGap × Cursor :=
  let (blanks, c) := c.takeWhile (· = ' ')
  match c.lineBreak? with
  | some (b, c) =>
    if c.atDocumentMark then (.mark, c)
    else match plainBreaks (c.rest.length + 1) c with
      | (none, c) => (.mark, c)
      | (some bs, c) =>
        let first := if b ≠ '\n' then [b] else if bs.isEmpty then [' '] else []
        (.text (first ++ bs) true, c)
  | none => (if blanks.isEmpty then .none else .text blanks false, c)

/-- A plain scalar, from the gap before its next word on: its text, and whether the reader stopped at
the beginning of a line. `indent` is the least column of a continuation outside flow collections. -/
def plainRest (flow : Bool) (indent : Int) :
    (fuel : Nat) → (gap : List Char) → (newLine : Bool) → Cursor → List Char × Bool × Cursor
  | 0, _, newLine, c => ([], newLine, c)
  | fuel + 1, gap, newLine, c =>
    if c.peek = '#' then ([], newLine, c)
    else
      let word := plainWord flow c.rest
      if word.isEmpty then ([], newLine, c)
      else
        match plainGap (c.skip word.length) with
        | (.none, c) => (gap ++ word, false, c)
        | (.mark, c) => (gap ++ word, true, c)
        | (.text next newLine, c) =>
          if c.peek = '#' || (!flow && (c.column : Int) < indent) then (gap ++ word, newLine, c)
          else
            let (text, newLine, c) := plainRest flow indent fuel next newLine c
            (gap ++ word ++ text, newLine, c)

/-- A plain scalar, and whether the reader stopped at the beginning of a line. -/
def plainScalar (flow : Bool) (indent : Int) (c : Cursor) : List Char × Bool × Cursor :=
  plainRest flow indent (c.rest.length + 1) [] false c

/-! ### Block scalars -/

/-- What becomes of the line ends behind a block. -/
inductive Chomping where
  | clip
  | strip
  | keep
  deriving DecidableEq, Repr

/-- The indentation that a header gives. -/
private def indentDigit? (ch : Char) : Option Nat :=
  if '0' ≤ ch && ch ≤ '9' then some (ch.toNat - '0'.toNat) else none

private def chompingSign? : Char → Option Chomping
  | '+' => some .keep
  | '-' => some .strip
  | _ => none

/-- The header of a block: what becomes of its last line ends, and its indentation if that is given.
The two come in either order. -/
def blockHeader (c : Cursor) : Except Fault ((Chomping × Option Nat) × Cursor) := do
  let (chomping, increment, c) := match chompingSign? c.peek, indentDigit? c.peek with
    | some ch, _ =>
      match indentDigit? c.next.peek with
      | some n => (ch, some n, c.skip 2)
      | none => (ch, none, c.next)
    | none, some n =>
      match chompingSign? c.next.peek with
      | some ch => (ch, some n, c.skip 2)
      | none => (.clip, some n, c.next)
    | none, none => (.clip, none, c)
  if increment = some 0 || !isSpaceOrEnd c.peek then malformed
  return ((chomping, increment), c)

/-- The rest of a line that may hold only blanks and a comment, with its end. -/
def emptyLineRest (c : Cursor) : Except Fault Cursor :=
  let c := (c.skipWhile (· = ' ')).skipComment
  match c.lineBreak? with
  | some (_, c) => return c
  | none => if c.rest.isEmpty then return c else malformed

/-- Empty lines before a block, and the greatest column of their spaces and of those before its first
line. -/
def blockIndentation : (fuel : Nat) → (most : Nat) → Cursor → List Char × Nat × Cursor
  | 0, most, c => ([], most, c)
  | fuel + 1, most, c =>
    if c.peek = ' ' then blockIndentation fuel (max most c.next.column) c.next
    else match c.lineBreak? with
      | some (b, c) =>
        let (bs, most, c) := blockIndentation fuel most c
        (b :: bs, most, c)
      | none => ([], most, c)

/-- Empty lines inside a block of a given indentation, and the spaces before its next line. -/
def blockBreaks (indent : Nat) : (fuel : Nat) → Cursor → List Char × Cursor
  | 0, c => ([], c)
  | fuel + 1, c =>
    let spaces := (c.rest.takeWhile (· = ' ')).length
    let c := c.skip (min spaces (indent - c.column))
    match c.lineBreak? with
    | some (b, c) =>
      let (bs, c) := blockBreaks indent fuel c
      (b :: bs, c)
    | none => ([], c)

/-- The lines of a block from one at the right column on: their text without the last line end, that
line end, and the empty lines behind it. -/
def blockLines (folded : Bool) (indent : Nat) :
    (fuel : Nat) → Cursor → List Char × List Char × List Char × Cursor
  | 0, c => ([], [], [], c)
  | fuel + 1, c =>
    let startsWithGap := c.peek = ' ' || c.peek = '\t'
    let (line, c) := c.takeWhile (!isBreak ·)
    let (lineEnd, c) := match c.lineBreak? with
      | some (b, c) => ([b], c)
      | none => ([], c)
    let (breaks, c) := blockBreaks indent (c.rest.length + 1) c
    if c.column = indent && !c.rest.isEmpty then
      let nextGap := c.peek = ' ' || c.peek = '\t'
      let joint :=
        if folded && lineEnd = ['\n'] && !startsWithGap && !nextGap then
          if breaks.isEmpty then [' '] else []
        else lineEnd
      let (text, last, tail, c) := blockLines folded indent fuel c
      (line ++ joint ++ breaks ++ text, last, tail, c)
    else (line, lineEnd, breaks, c)

/-- A block scalar. `parent` is the indentation of the collection it lies in. -/
def blockScalar (parent : Int) (c : Cursor) : Except Fault (List Char × Cursor) := do
  let folded := c.peek = '>'
  let ((chomping, increment), c) ← blockHeader c.next
  let c ← emptyLineRest c
  let least := (max 1 (parent + 1)).toNat
  let (indent, breaks, c) := match increment with
    | none =>
      let (breaks, most, c) := blockIndentation (c.rest.length + 1) 0 c
      (max least most, breaks, c)
    | some n =>
      let indent := least + n - 1
      let (breaks, c) := blockBreaks indent (c.rest.length + 1) c
      (indent, breaks, c)
  if c.column = indent && !c.rest.isEmpty then
    let (text, last, tail, c) := blockLines folded indent (c.rest.length + 1) c
    return (breaks ++ text ++ (if chomping = .strip then [] else last)
      ++ (if chomping = .keep then tail else []), c)
  else return (if chomping = .keep then breaks else [], c)

end StepFlow.Yaml
