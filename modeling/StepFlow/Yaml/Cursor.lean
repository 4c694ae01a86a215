import StepFlow.Text.Utf8

/-!
# Positions in a YAML text

A cursor is what remains of a text, with the line and column at which it begins. Layout matters in
YAML, so a reader looks at columns; everything else a reader sees is at the head of the remaining
text.

The end of the text reads as NUL, which cannot stand in a YAML text.
-/

namespace StepFlow.Yaml

/-! ### Characters -/

/-- Characters that may stand in a YAML text. -/
def isAllowed (c : Char) : Bool :=
  let n := c.toNat
  n == 0x09 || n == 0x0a || n == 0x0d || (0x20 ≤ n && n ≤ 0x7e) || n == 0x85
    || (0xa0 ≤ n && n ≤ 0xd7ff) || (0xe000 ≤ n && n ≤ 0xfffd) || 0x10000 ≤ n

/-- Characters that end a line. -/
def isBreak (c : Char) : Bool :=
  c = '\r' || c = '\n' || c = '\x85' || c = '\u2028' || c = '\u2029'

/-- The end of a line or of the text. -/
def isLineEnd (c : Char) : Bool := c = '\x00' || isBreak c

/-- A space, or the end of a line or of the text. -/
def isSpaceOrEnd (c : Char) : Bool := c = ' ' || isLineEnd c

/-- A space or tab, or the end of a line or of the text. -/
def isGapOrEnd (c : Char) : Bool := c = '\t' || isSpaceOrEnd c

/-- A character of a name: letters and digits of ASCII, hyphen and underscore. -/
def isWordChar (c : Char) : Bool := c.isAlphanum || c = '-' || c = '_'

/-! ### Cursors -/

/-- What remains of a text, and where it begins. -/
structure Cursor where
  rest : List Char
  line : Nat := 0
  column : Nat := 0
  /-- Characters before this point. -/
  index : Nat := 0
  deriving Repr, Inhabited

namespace Cursor

/-- The next character. -/
def peek (c : Cursor) : Char := c.rest.headD '\x00'

/-- The character `n` places ahead. -/
def peekAt (c : Cursor) (n : Nat) : Char := (c.rest.drop n).headD '\x00'

/-- Pass over one character. A byte order mark takes no column. -/
def next (c : Cursor) : Cursor :=
  match c.rest with
  | [] => c
  | ch :: rest =>
    if isBreak ch && !(ch = '\r' && rest.head? = some '\n') then ⟨rest, c.line + 1, 0, c.index + 1⟩
    else ⟨rest, c.line, if ch = '\ufeff' then c.column else c.column + 1, c.index + 1⟩

/-- Pass over `n` characters. -/
def skip (c : Cursor) : Nat → Cursor
  | 0 => c
  | n + 1 => skip c.next n

/-- The characters up to the first one that fails `p`, and the cursor behind them. -/
def takeWhile (c : Cursor) (p : Char → Bool) : List Char × Cursor :=
  let taken := c.rest.takeWhile p
  (taken, c.skip taken.length)

/-- Pass over the characters up to the first one that fails `p`. -/
def skipWhile (c : Cursor) (p : Char → Bool) : Cursor := (c.takeWhile p).2

/-- The line end at the cursor as it counts in a text, and the cursor behind it. All ends but the two
separators count as a line feed. -/
def lineBreak? (c : Cursor) : Option (Char × Cursor) :=
  if c.peek = '\r' && c.peekAt 1 = '\n' then some ('\n', c.skip 2)
  else if c.peek = '\u2028' || c.peek = '\u2029' then some (c.peek, c.next)
  else if isBreak c.peek then some ('\n', c.next)
  else none

/-- Pass over a comment. -/
def skipComment (c : Cursor) : Cursor :=
  if c.peek = '#' then c.skipWhile (!isBreak ·) else c

/-- At the beginning of a line stand the three given characters and then a gap. -/
def atMark (c : Cursor) (mark : Char) : Bool :=
  c.peek = mark && c.peekAt 1 = mark && c.peekAt 2 = mark && isGapOrEnd (c.peekAt 3)

/-- A mark that begins or ends a document. -/
def atDocumentMark (c : Cursor) : Bool := c.atMark '-' || c.atMark '.'

end Cursor

end StepFlow.Yaml
