import StepFlow.Yaml.Scalar

/-!
# Tokens of YAML

A YAML text is a sequence of tokens: the signs of collections, the marks of documents, directives,
the properties of nodes (anchors, aliases and tags) and scalars. Where block collections begin and
end is not written; the tokens for that come from the layout.

The readers here read the tokens that consist of more than signs.
-/

namespace StepFlow.Yaml

/-- A tag as it is written: a handle, which a directive may define, and a suffix. Without a handle
the suffix is the whole tag. -/
structure TagText where
  handle : Option String
  suffix : String
  deriving DecidableEq, Repr, Inhabited

/-- What a directive says. -/
inductive Directive where
  | version (major minor : Nat)
  | tag (handle expansion : String)
  | other
  deriving DecidableEq, Repr, Inhabited

inductive Token where
  | streamEnd
  | directive (d : Directive)
  | documentStart
  | documentEnd
  | blockSequenceStart
  | blockMappingStart
  | blockEnd
  | flowSequenceStart
  | flowSequenceEnd
  | flowMappingStart
  | flowMappingEnd
  | blockEntry
  | flowEntry
  | key
  | value
  | alias (name : String)
  | anchor (name : String)
  | tag (t : TagText)
  /-- A scalar; `plain` if it stands without quotes and not as a block. -/
  | scalar (plain : Bool) (text : String)
  deriving DecidableEq, Repr, Inhabited

/-! ### Anchors and aliases -/

/-- The name behind `&` or `*`. -/
def nodeName (c : Cursor) : Except Fault (String × Cursor) :=
  let (name, c) := c.next.takeWhile isWordChar
  if name.isEmpty || !(isGapOrEnd c.peek || "?:,]\x7d%@`".toList.contains c.peek) then malformed
  else return (String.ofList name, c)

/-! ### Tags -/

/-- A character that may stand in a tag. -/
def isTagChar (c : Char) : Bool :=
  c.isAlphanum || "-;/?:@&=+$,_.!~*'()[]%".toList.contains c

/-- The bytes that escapes in a tag denote; every escape is a percent sign and two digits. -/
def tagBytes : List Char → Option (List UInt8 × List Char)
  | '%' :: a :: b :: rest => do
    let byte := digitsValue 16 [← asciiDigit? a, ← asciiDigit? b]
    let (bytes, rest) ← tagBytes rest
    return (UInt8.ofNat byte :: bytes, rest)
  | '%' :: _ => none
  | rest => some ([], rest)

/-- The text of a tag with its escapes resolved. Runs of escapes are UTF-8. -/
def resolveTagEscapes : (fuel : Nat) → List Char → Option (List Char)
  | 0, _ | _, [] => some []
  | fuel + 1, c :: cs =>
    if c = '%' then do
      let (bytes, rest) ← tagBytes (c :: cs)
      return (← Text.Utf8.decode? bytes) ++ (← resolveTagEscapes fuel rest)
    else do
      return c :: (← resolveTagEscapes fuel cs)

/-- The part of a tag that names it. -/
def tagName (c : Cursor) : Except Fault (String × Cursor) :=
  let (text, c) := c.takeWhile isTagChar
  if text.isEmpty then malformed
  else match resolveTagEscapes text.length text with
    | some name => return (String.ofList name, c)
    | none => malformed

/-- A handle: `!`, `!!` or a name between two exclamation marks. -/
def tagHandle (c : Cursor) : Except Fault (String × Cursor) :=
  if c.peek ≠ '!' then malformed
  else if c.peekAt 1 = ' ' then return ("!", c.next)
  else
    let (name, c) := c.next.takeWhile isWordChar
    if c.peek = '!' then return (String.ofList ('!' :: name ++ ['!']), c.next) else malformed

/-- The tag at the cursor. -/
def tagText (c : Cursor) : Except Fault (TagText × Cursor) := do
  let (t, c) ←
    if c.peekAt 1 = '<' then do
      let (name, c) ← tagName (c.skip 2)
      if c.peek ≠ '>' then malformed
      pure (⟨none, name⟩, c.next)
    else if isGapOrEnd (c.peekAt 1) then
      pure (⟨none, "!"⟩, c.next)
    else
      let word := c.next.rest.takeWhile (!isSpaceOrEnd ·)
      let (handle, c) ← if word.contains '!' then tagHandle c else pure ("!", c.next)
      let (name, c) ← tagName c
      pure (⟨some handle, name⟩, c)
  if isSpaceOrEnd c.peek then return (t, c) else malformed

/-! ### Directives -/

/-- A number in a directive. -/
private def directiveNumber (c : Cursor) : Except Fault (Nat × Cursor) :=
  let (digits, c) := c.takeWhile Char.isDigit
  if digits.isEmpty then malformed
  else return (digitsValue 10 (digits.filterMap asciiDigit?), c)

/-- What a directive of a given name says. -/
private def directiveBody (name : List Char) (c : Cursor) : Except Fault (Directive × Cursor) := do
  if name = "YAML".toList then
    let (major, c) ← directiveNumber (c.skipWhile (· = ' '))
    if c.peek ≠ '.' then malformed
    let (minor, c) ← directiveNumber c.next
    if isSpaceOrEnd c.peek then return (.version major minor, c) else malformed
  else if name = "TAG".toList then
    let (handle, c) ← tagHandle (c.skipWhile (· = ' '))
    if c.peek ≠ ' ' then malformed
    let (expansion, c) ← tagName (c.skipWhile (· = ' '))
    if isSpaceOrEnd c.peek then return (.tag handle expansion, c) else malformed
  else return (.other, c.skipWhile (!isBreak ·))

/-- The directive at the cursor, with the end of its line. -/
def directive (c : Cursor) : Except Fault (Directive × Cursor) := do
  let (name, c) := c.next.takeWhile isWordChar
  if name.isEmpty || !isSpaceOrEnd c.peek then malformed
  let (d, c) ← directiveBody name c
  return (d, ← emptyLineRest c)

end StepFlow.Yaml
