import StepFlow.Yaml.Token

/-!
# The layout of a YAML text

From a text to its tokens. Two kinds of tokens are not written and follow from the layout.

Block collections begin where something stands further right than the collection around it, and end
where something stands further left. Inside flow collections columns do not count.

A key may stand before its colon without a sign. Whatever may be such a key is remembered with the
place it has among the tokens; when a colon follows in time, the sign for a key is put there, and
with it the beginning of a mapping. A key that opens a line of a block mapping has to be followed by
a colon. A key lies on one line and takes at most 1024 characters.

## Main definitions

* `Layout` — what is known between two tokens
* `Layout.advance` — read the next token
* `tokens` — the tokens of a text, up to the first fault
-/

namespace StepFlow.Yaml

/-- Something that becomes a key if a colon follows it. -/
structure PendingKey where
  /-- Its place among the tokens. -/
  place : Nat
  /-- A colon has to follow. -/
  required : Bool
  line : Nat
  column : Nat
  /-- The characters before it. -/
  index : Nat
  deriving Repr, Inhabited

/-- What is known between two tokens. -/
structure Layout where
  cursor : Cursor
  tokens : Array Token := #[]
  /-- The column of the innermost block collection, -1 outside all. -/
  indent : Int := -1
  /-- The columns of the block collections around it. -/
  outer : List Int := []
  /-- What may become a key at the current level. -/
  pending : Option PendingKey := none
  /-- The same for the levels around it; one level for every open flow collection. -/
  suspended : List (Option PendingKey) := []
  /-- A key may begin here. -/
  keyAllowed : Bool := true
  finished : Bool := false
  deriving Inhabited

namespace Layout

/-- Inside a flow collection. -/
def inFlow (l : Layout) : Bool := !l.suspended.isEmpty

def push (l : Layout) (t : Token) : Layout := { l with tokens := l.tokens.push t }

def insertAt (l : Layout) (place : Nat) (t : Token) : Layout :=
  { l with tokens := l.tokens.insertIdxIfInBounds place t }

/-! ### Columns -/

/-- End the block collections that lie further right than `column`. The list is that of the columns
around the innermost one. -/
def closeBlocks (column : Int) : List Int → Layout → Layout
  | [], l => l
  | i :: rest, l =>
    if column < l.indent then closeBlocks column rest { l.push .blockEnd with indent := i, outer := rest }
    else l

/-- Outside flow collections, end what lies further right. -/
def unwind (column : Int) (l : Layout) : Layout :=
  if l.inFlow then l else closeBlocks column l.outer l

/-- Begin a block collection at `column` if that is further right than the one around it. -/
def openBlock (column : Nat) (place : Nat) (t : Token) (l : Layout) : Layout :=
  if l.indent < column then
    { l.insertAt place t with indent := column, outer := l.indent :: l.outer }
  else l

/-! ### Pending keys -/

/-- A pending key is out of reach. -/
def isStale (c : Cursor) (k : PendingKey) : Bool :=
  k.line ≠ c.line || 1024 < c.index - k.index

private def dropIfStale (c : Cursor) : Option PendingKey → Except Fault (Option PendingKey)
  | none => return none
  | some k => if isStale c k then (if k.required then malformed else return none) else return some k

/-- Drop the pending keys that are out of reach. -/
def dropStale (l : Layout) : Except Fault Layout := do
  return { l with pending := ← dropIfStale l.cursor l.pending
                  suspended := ← l.suspended.mapM (dropIfStale l.cursor) }

/-- Give up the pending key of this level. -/
def dropPending (l : Layout) : Except Fault Layout :=
  match l.pending with
  | some k => if k.required then malformed else return { l with pending := none }
  | none => return l

/-- What begins here may be a key. -/
def savePending (l : Layout) : Except Fault Layout := do
  if l.keyAllowed then
    let l ← l.dropPending
    let c := l.cursor
    let required := !l.inFlow && l.indent = c.column
    return { l with pending := some ⟨l.tokens.size, required, c.line, c.column, c.index⟩ }
  else return l

/-! ### Tokens -/

/-- Pass over spaces, comments and line ends. Behind a line end a key may begin. -/
def skipGaps : (fuel : Nat) → Layout → Layout
  | 0, l => l
  | fuel + 1, l =>
    let c := (l.cursor.skipWhile (· = ' ')).skipComment
    match c.lineBreak? with
    | some (_, c) => skipGaps fuel { l with cursor := c, keyAllowed := l.keyAllowed || !l.inFlow }
    | none => { l with cursor := c }

/-- The end of the stream, a directive or a mark of a document: all block collections end. -/
def leaveDocument (l : Layout) : Except Fault Layout := do
  return { ← (l.unwind (-1)).dropPending with keyAllowed := false }

/-- A sign of the given length. -/
def sign (l : Layout) (length : Nat) (t : Token) : Layout :=
  { l.push t with cursor := l.cursor.skip length }

def openFlow (l : Layout) (t : Token) : Except Fault Layout := do
  let l ← l.savePending
  return { l.sign 1 t with
    pending := none, suspended := l.pending :: l.suspended, keyAllowed := true }

def closeFlow (l : Layout) (t : Token) : Except Fault Layout := do
  let l ← l.dropPending
  match l.suspended with
  | [] => malformed
  | k :: rest => return { l.sign 1 t with pending := k, suspended := rest, keyAllowed := false }

def flowEntry (l : Layout) : Except Fault Layout := do
  return { (← l.dropPending).sign 1 .flowEntry with keyAllowed := true }

/-- Outside flow collections the signs of block collections stand where keys may. -/
private def openBlockFor (start : Token) (l : Layout) : Except Fault Layout :=
  if l.inFlow then return l
  else if l.keyAllowed then return l.openBlock l.cursor.column l.tokens.size start
  else malformed

def blockEntry (l : Layout) : Except Fault Layout := do
  let l ← (← l.openBlockFor .blockSequenceStart).dropPending
  return { l.sign 1 .blockEntry with keyAllowed := true }

/-- The sign of a key, where it is written. -/
def keySign (l : Layout) : Except Fault Layout := do
  let l ← (← l.openBlockFor .blockMappingStart).dropPending
  return { l.sign 1 .key with keyAllowed := !l.inFlow }

/-- The colon behind a key, or one without a key. -/
def valueSign (l : Layout) : Except Fault Layout := do
  match l.pending with
  | some k =>
    let l := { l with pending := none }.insertAt k.place .key
    let l := if l.inFlow then l else l.openBlock k.column k.place .blockMappingStart
    return { l.sign 1 .value with keyAllowed := false }
  | none =>
    let l ← l.openBlockFor .blockMappingStart
    return { l.sign 1 .value with keyAllowed := !l.inFlow }

/-- A token that may be a key, or begin one. -/
def property (l : Layout) (read : Cursor → Except Fault (Token × Cursor)) :
    Except Fault Layout := do
  let l ← l.savePending
  let (t, c) ← read l.cursor
  return { l.push t with cursor := c, keyAllowed := false }

/-- A block scalar. No key can be one. -/
def block (l : Layout) : Except Fault Layout := do
  let l ← l.dropPending
  let (text, c) ← blockScalar l.indent l.cursor
  return { l.push (.scalar false (String.ofList text)) with cursor := c, keyAllowed := true }

/-- A plain scalar. Where it runs to the beginning of a line, a key may begin there. -/
def plain (l : Layout) : Except Fault Layout := do
  let l ← l.savePending
  let (text, newLine, c) := plainScalar l.inFlow (l.indent + 1) l.cursor
  return { l.push (.scalar true (String.ofList text)) with cursor := c, keyAllowed := newLine }

/-- A plain scalar may begin with the character at the cursor. -/
def atPlain (l : Layout) : Bool :=
  let c := l.cursor
  !(isGapOrEnd c.peek || "-?:,[]\x7b\x7d#&*!|>'\"%@`".toList.contains c.peek)
    || (!isGapOrEnd (c.peekAt 1)
      && (c.peek = '-' || (!l.inFlow && (c.peek = '?' || c.peek = ':'))))

/-- Read the token at the cursor. -/
def token (l : Layout) : Except Fault Layout :=
  let c := l.cursor
  let gapFollows := isGapOrEnd (c.peekAt 1)
  if c.rest.isEmpty then do
    return { (← l.leaveDocument).push .streamEnd with finished := true }
  else if c.column = 0 && c.peek = '%' then do
    let l ← l.leaveDocument
    let (d, c) ← directive c
    return { l.push (.directive d) with cursor := c }
  else if c.column = 0 && c.atMark '-' then do
    return (← l.leaveDocument).sign 3 .documentStart
  else if c.column = 0 && c.atMark '.' then do
    return (← l.leaveDocument).sign 3 .documentEnd
  else match c.peek with
    | '[' => l.openFlow .flowSequenceStart
    | '{' => l.openFlow .flowMappingStart
    | ']' => l.closeFlow .flowSequenceEnd
    | '}' => l.closeFlow .flowMappingEnd
    | ',' => l.flowEntry
    | '*' => l.property fun c => (nodeName c).map fun (n, c) => (.alias n, c)
    | '&' => l.property fun c => (nodeName c).map fun (n, c) => (.anchor n, c)
    | '!' => l.property fun c => (tagText c).map fun (t, c) => (.tag t, c)
    | '\'' => l.property fun c => (quotedScalar c).map fun (s, c) => (.scalar false (String.ofList s), c)
    | '"' => l.property fun c => (quotedScalar c).map fun (s, c) => (.scalar false (String.ofList s), c)
    | ch =>
      if ch = '-' && gapFollows then l.blockEntry
      else if ch = '?' && (l.inFlow || gapFollows) then l.keySign
      else if ch = ':' && (l.inFlow || gapFollows) then l.valueSign
      else if (ch = '|' || ch = '>') && !l.inFlow then l.block
      else if l.atPlain then l.plain
      else malformed

/-- Read the next token. -/
def advance (l : Layout) : Except Fault Layout := do
  let l ← (l.skipGaps (l.cursor.rest.length + 1)).dropStale
  (l.unwind l.cursor.column).token

/-- Read tokens up to the end of the stream or a fault. -/
def run : (fuel : Nat) → Layout → Array Token × Option Fault
  | 0, l => (l.tokens, none)
  | fuel + 1, l =>
    match l.advance with
    | .error e => (l.tokens, some e)
    | .ok l => if l.finished then (l.tokens, none) else run fuel l

end Layout

/-- The tokens of a text, and the fault that ends them if there is one. Every token but the last
takes at least one character. -/
def tokens (text : List Char) : List Token × Option Fault :=
  let text := match text with
    | '\ufeff' :: rest => rest
    | text => text
  let (ts, fault) := Layout.run (text.length + 1) { cursor := ⟨text, 0, 0, 0⟩ }
  (ts.toList, fault)

end StepFlow.Yaml
