import StepFlow.Text.Base64
import StepFlow.Value.Display
import StepFlow.Yaml.Cursor
import StepFlow.Yaml.Tag

/-!
# Writing YAML

A value as YAML text in block style and ASCII: every entry of a mapping on a line of its own, in
order, and what belongs to it two columns further right; the items of a list stand in the column of
the mapping around it. Text is plain where it reads back as the same text; otherwise it stands
between single quotes, or between double quotes if it holds something that takes an escape. A text
that has passed column 80 goes on in the next line at the next space.

## Main definitions

* `isPlainText`, `isSingleQuotable` — which form a text takes
* `Page` — text written so far, with the current column
* `write` — the text of a value
-/

namespace StepFlow.Yaml

/-! ### The form of texts -/

/-- A character that needs no escape. -/
def isSimple (c : Char) : Bool := c = '\n' || (' ' ≤ c && c ≤ '~')

/-- A colon before a space or the end, or a number sign behind a space, somewhere in a text. -/
private def breaksPlain : List Char → Bool
  | [] => false
  | [c] => c = ':'
  | c :: d :: rest =>
    (c = ':' && (d = ' ' || d = '\n')) || ((c = ' ' || c = '\n') && d = '#') || breaksPlain (d :: rest)

/-- A text begins in a way in which no plain one may. -/
private def startsPlain (cs : List Char) : Bool :=
  match cs with
  | [] => false
  | c :: rest =>
    let alone := rest.headD ' ' = ' '
    !("#,[]\x7b\x7d&*!|>'\"%@`".toList.contains c)
      && !((c = '?' || c = ':' || c = '-') && alone)
      && !("---".isPrefixOf (String.ofList cs) || "...".isPrefixOf (String.ofList cs))

/-- A text that may stand without quotes: one line that begins and ends with no space, holds no sign
of YAML and has the form of no other kind of value. -/
def isPlainText (text : String) : Bool :=
  let cs := text.toList
  startsPlain cs && !breaksPlain cs && cs.all (fun c => isSimple c && c ≠ '\n')
    && cs.head? ≠ some ' ' && cs.getLast? ≠ some ' ' && Tag.ofForm text = .str

/-- A space before or behind a line end. -/
private def blanksAtBreak : List Char → Bool
  | c :: d :: rest => (c = ' ' && d = '\n') || (c = '\n' && d = ' ') || blanksAtBreak (d :: rest)
  | _ => false

/-- A text that may stand between single quotes. -/
def isSingleQuotable (cs : List Char) : Bool := cs.all isSimple && !blanksAtBreak cs

/-! ### Pages -/

/-- Text written so far, last character first, and the current column. -/
structure Page where
  reversed : List Char := []
  column : Nat := 0
  deriving Inhabited

abbrev Writing := StateM Page Unit

/-- Write characters into the current line. -/
def put (cs : List Char) : Writing :=
  modify fun p => ⟨cs.reverse ++ p.reversed, p.column + cs.length⟩

/-- Begin a new line with spaces up to a column. -/
def newLine (indent : Nat) : Writing :=
  modify fun p => ⟨List.replicate indent ' ' ++ '\n' :: p.reversed, indent⟩

/-- Write spaces up to a column. -/
def padTo (column : Nat) : Writing := do
  let p ← get
  put (List.replicate (column - p.column) ' ')

/-- The current line is full. -/
def isFull : StateM Page Bool := return 80 < (← get).column

/-! ### Texts -/

/-- Neighbouring characters of one class. -/
private def runs (cs : List Char) : List (List Char) :=
  cs.splitBy fun a b => (a = ' ') = (b = ' ') && (a = '\n') = (b = '\n')

/-- Write a plain text. -/
def putPlain (indent : Nat) (fold : Bool) (cs : List Char) : Writing :=
  (runs cs).forM fun run => do
    if fold && run = [' '] && (← isFull) then newLine indent else put run

/-- Write the runs of a text between single quotes. -/
private def putSingleRuns (indent : Nat) (fold : Bool) : (first : Bool) → List (List Char) → Writing
  | _, [] => return
  | first, run :: rest => do
    if run.head? = some '\n' then
      run.forM fun _ => newLine 0
      newLine indent
    else if fold && run = [' '] && !first && !rest.isEmpty && (← isFull) then newLine indent
    else put (run.flatMap fun c => if c = '\'' then ['\'', '\''] else [c])
    putSingleRuns indent fold false rest

/-- Write a text between single quotes. A line end is written as two. -/
def putSingleQuoted (indent : Nat) (fold : Bool) (cs : List Char) : Writing := do
  put ['\'']
  putSingleRuns indent fold true (runs cs)
  put ['\'']

/-- The escape of a character between double quotes, if it takes one. -/
def doubleEscape? (c : Char) : Option (List Char) :=
  match c with
  | '\x00' => some ['\\', '0']
  | '\x07' => some ['\\', 'a']
  | '\x08' => some ['\\', 'b']
  | '\t' => some ['\\', 't']
  | '\n' => some ['\\', 'n']
  | '\x0b' => some ['\\', 'v']
  | '\x0c' => some ['\\', 'f']
  | '\r' => some ['\\', 'r']
  | '\x1b' => some ['\\', 'e']
  | '"' => some ['\\', '"']
  | '\\' => some ['\\', '\\']
  | '\x85' => some ['\\', 'N']
  | '\xa0' => some ['\\', '_']
  | '\u2028' => some ['\\', 'L']
  | '\u2029' => some ['\\', 'P']
  | c =>
    let digits (width : Nat) := (Text.hexDigits width c.toNat).map Char.toUpper
    if ' ' ≤ c && c ≤ '~' then none
    else if c.toNat ≤ 0xff then some ('\\' :: 'x' :: digits 2)
    else if c.toNat ≤ 0xffff then some ('\\' :: 'u' :: digits 4)
    else some ('\\' :: 'U' :: digits 8)

/-- Write the characters of a text between double quotes. `fresh` tells that no character has been
written as itself since the last escape. A backslash at the end of a line joins it with the next, and
one before a space keeps that. -/
private def putDoubleChars (indent : Nat) (fold : Bool) : (first fresh : Bool) → List Char → Writing
  | _, _, [] => return
  | first, fresh, c :: rest => do
    let inner := fold && !first && !rest.isEmpty
    match doubleEscape? c with
    | some escape =>
      put escape
      if inner && 81 < (← get).column then
        put ['\\']
        newLine indent
        if rest.head? = some ' ' then put ['\\']
      putDoubleChars indent fold false true rest
    | none =>
      if inner && (c = ' ' || fresh) && (← isFull) then
        put ['\\']
        newLine indent
        if c = ' ' then put ['\\']
      put [c]
      putDoubleChars indent fold false false rest

/-- Write a text between double quotes. -/
def putDoubleQuoted (indent : Nat) (fold : Bool) (cs : List Char) : Writing := do
  put ['"']
  putDoubleChars indent fold true true cs
  put ['"']

/-- Write a text in the form it takes. -/
def putText (indent : Nat) (fold : Bool) (text : String) : Writing :=
  let cs := text.toList
  if isPlainText text then putPlain indent fold cs
  else if isSingleQuotable cs then putSingleQuoted indent fold cs
  else putDoubleQuoted indent fold cs

/-! ### Values -/

/-- The decimal of a double. An exponent follows a fraction. -/
def doubleText (x : Double) : String :=
  match x with
  | .nan => ".nan"
  | .infinite negative => if negative then "-.inf" else ".inf"
  | x =>
    let cs := x.text.toList
    let (mantissa, exponent) := cs.span (· ≠ 'e')
    if exponent.isEmpty || mantissa.contains '.' then x.text
    else String.ofList (mantissa ++ ['.', '0'] ++ exponent)

/-- The lines of base 64, each with its end. -/
private def binaryLines : (fuel : Nat) → List Char → List Char
  | 0, _ | _, [] => []
  | fuel + 1, cs => cs.take 76 ++ '\n' :: binaryLines fuel (cs.drop 76)

/-- The refusal of a value that has no form in a YAML text. -/
private def noForm {α : Type} : Except Fault α :=
  throw (.foreign "RepresenterError" "cannot represent an object")

/-- The tag of a scalar, and its text without quotes. Collections have none, but for empty ones. -/
def scalarForm : Value → Except Fault (Tag × String)
  | .null => return (.null, "null")
  | .bool b => return (.bool, if b then "true" else "false")
  | .int n => (integerText n).map ((.int, ·)) |>.mapError .number
  | .double x => return (.float, doubleText x)
  | .str s => return (.str, s)
  | .rough t => return (.str, t.smoothed)
  | .date d => return (.timestamp, d.iso)
  | .time t => return (.timestamp, t.textWith " ")
  | .bytes bs =>
    let cs := Text.Base64.encode bs
    return (.binary, String.ofList (binaryLines (cs.length + 1) cs))
  | .list _ | .tuple _ => return (.seq, "[]")
  | .map _ => return (.map, "\x7b\x7d")
  | .set _ | .knot .. | .loop _ | .action _ => noForm

/-- Write a scalar. Lines that go on begin at column `indent`. A tag is written where the form of the
text does not show it. -/
def putScalar (indent : Nat) (fold : Bool) (v : Value) : ExceptT Fault (StateM Page) Unit := do
  match scalarForm v with
  | .error e => throw e
  | .ok (.str, text) => putText indent fold text
  | .ok (.binary, "") => put "!!binary \"\"".toList
  | .ok (.binary, text) =>
    put "!!binary |".toList
    (text.toList.splitOn '\n').dropLast.forM fun line => do
      newLine indent
      put line
  | .ok (.timestamp, text) =>
    if Tag.ofForm text = .timestamp then put text.toList
    else
      put "!!timestamp ".toList
      putSingleQuoted indent fold text.toList
  | .ok (_, text) => put text.toList

/-- The name of a tag as it is written, for its length. -/
private def writtenTag (tag : Tag) : String :=
  "!!" ++ ((Tag.standard.find? (·.2 = tag)).map (·.1)).getD ""

/-- A key that stands before its colon without a sign: short, not empty and on one line. -/
def isSimpleKey (v : Value) : Bool :=
  match scalarForm v with
  | .ok (tag, text) =>
    text ≠ "" && !text.toList.any (fun c => c ≠ '\r' && isBreak c)
      && text.length + (writtenTag tag).length < 128
  | .error _ => true

/-- Begin an entry or item of a collection at column `indent`: in the current line if `here`. -/
private def begin (indent : Nat) (here : Bool) : ExceptT Fault (StateM Page) Unit :=
  if here then padTo indent else newLine indent

mutual

/-- Write what belongs to a key or a sign of the collection at column `indent`. Behind a sign,
collections begin in the same line. -/
def putNode (indent : Nat) (behindSign : Bool) : Value → ExceptT Fault (StateM Page) Unit
  | .map (e :: rest) => putEntries (indent + 2) behindSign (e :: rest)
  | .list (x :: rest) | .tuple (x :: rest) =>
    putItems (if behindSign then indent + 2 else indent) behindSign (x :: rest)
  | v => do
    put [' ']
    putScalar (indent + 2) true v

/-- Write the items of a list at column `indent`. -/
def putItems (indent : Nat) (here : Bool) : List Value → ExceptT Fault (StateM Page) Unit
  | [] => return
  | x :: rest => do
    begin indent here
    put ['-']
    putNode indent true x
    putItems indent false rest

/-- Write the entries of a mapping at column `indent`. -/
def putEntries (indent : Nat) (here : Bool) :
    List (Value × Value) → ExceptT Fault (StateM Page) Unit
  | [] => return
  | (k, v) :: rest => do
    begin indent here
    if isSimpleKey k then
      putScalar (indent + 2) false k
      put [':']
      putNode indent false v
    else
      put ['?', ' ']
      putScalar (indent + 2) true k
      newLine indent
      put [':']
      putNode indent true v
    putEntries indent false rest

end

/-- The YAML text of a mapping. -/
def write (entries : List (Value × Value)) : Except Fault String :=
  let (result, page) := (if entries.isEmpty then putScalar 0 true (.map []) else putEntries 0 true entries).run {}
  result.map fun () => String.ofList ('\n' :: page.reversed).reverse

end StepFlow.Yaml
