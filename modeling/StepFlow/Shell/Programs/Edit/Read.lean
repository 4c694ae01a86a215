import StepFlow.Shell.Programs.Edit.Basic
import StepFlow.Shell.Regex.Read

/-!
# Reading edit scripts

A command is its addresses, a letter, and what the letter asks for: a name, a number, a text, or parts
between delimiters, which may be any character. Commands end at line ends and semicolons; names and
texts reach to the end of their line.

## Main definitions

* `EditCommand.readAll` — the commands of a text
-/

namespace StepFlow.Shell

/-- What is wrong with a script, and what was not read of it. -/
structure EditFault where
  message : String
  rest : List Char
  deriving DecidableEq, Repr

/-- How a script is read. -/
structure EditForm where
  extended : Bool := false
  deriving DecidableEq, Repr

namespace EditCommand

private abbrev Reader := StateT (List Char) (Except EditFault)

private def fail {α : Type} (message : String) : Reader α := do
  throw ⟨message, ← get⟩

/-- The next character, if there is one. -/
private def nextChar : Reader (Option Char) := do
  match ← get with
  | [] => return none
  | c :: rest =>
    set rest
    return some c

private def isBlank (c : Char) : Bool := c = ' ' || c = '\t'

private def skipBlanks : Reader Unit := modify fun cs => cs.dropWhile isBlank

/-- The next character that is not blank. -/
private def nextFilled : Reader (Option Char) := do
  skipBlanks
  nextChar

private def putBack (c : Option Char) : Reader Unit := modify fun cs => c.toList ++ cs

/-- A number, zero if there is none. -/
private def number : Reader Nat := do
  let cs ← get
  let ds := cs.takeWhile Char.isDigit
  set (cs.drop ds.length)
  return digitsValue 10 (ds.filterMap asciiDigit?)

/-- A number behind blanks, if there is one. -/
private def number? : Reader (Option Nat) := do
  skipBlanks
  if (← get).head?.any Char.isDigit then return some (← number) else return none

/-! ### Delimited texts -/

/-- The length of a class, from behind its opening bracket up to and with the closing one. -/
private def classLength (cs : List Char) : Nat :=
  let start := if cs.head? = some '^' then 1 else 0
  let start := start + (if (cs.drop start).head? = some ']' then 1 else 0)
  let rec go : (fuel : Nat) → (n : Nat) → List Char → Nat
    | 0, n, _ | _, n, [] => n
    | _, n, ']' :: _ => n + 1
    | fuel + 1, n, '[' :: m :: rest =>
      if m = ':' || m = '.' || m = '=' then
        let inside := rest.takeWhile (· ≠ ']')
        go fuel (n + 2 + inside.length + 1) (rest.drop (inside.length + 1))
      else go fuel (n + 1) (m :: rest)
    | fuel + 1, n, _ :: rest => go fuel (n + 1) rest
  go (cs.length + 1) start (cs.drop start)

/-- The text up to a delimiter, and what follows. Of an expression, classes are passed over as wholes,
and a backslash with an `n` is a line end. -/
private def upTo (mark : Char) (isPattern : Bool) : (fuel : Nat) → List Char →
    Except (List Char) (List Char × List Char)
  | 0, cs => throw cs
  | _, [] => throw []
  | fuel + 1, c :: rest => do
    if c = mark then return ([], rest)
    match c, rest with
    | '\n', _ => throw ('\n' :: rest)
    | '\\', [] => throw []
    | '\\', d :: rest =>
      let kept : List Char :=
        if d = mark && !(!isPattern && d = '&') then
          -- A delimiter that is an operator loses that meaning.
          [d]
        else if d = 'n' && isPattern then ['\n']
        else if d = '\n' then ['\n']
        else ['\\', d]
      let (more, rest) ← upTo mark isPattern fuel rest
      return (kept ++ more, rest)
    | '[', rest =>
      if isPattern then
        let n := classLength rest
        let inside := rest.take n
        if inside.getLast? = some ']' && !inside.contains '\n' then
          let (more, rest) ← upTo mark isPattern fuel (rest.drop n)
          return ('[' :: inside ++ more, rest)
        else throw (rest.dropWhile (· ≠ '\n'))
      else
        let (more, rest) ← upTo mark isPattern fuel rest
        return (c :: more, rest)
    | _, _ =>
      let (more, rest) ← upTo mark isPattern fuel rest
      return (c :: more, rest)

/-- The text up to a delimiter. -/
private def delimited (mark : Char) (isPattern : Bool) (complaint : String) : Reader (List Char) := do
  let cs ← get
  match upTo mark isPattern (cs.length + 1) cs with
  | .ok (text, rest) =>
    set rest
    return text
  | .error rest => throw ⟨complaint, rest⟩

/-! ### Codes -/

/-- The value of digits behind a letter that names their base, and what follows. -/
private def coded (base most : Nat) (cs : List Char) : Option (Char × List Char) :=
  let isDigit (c : Char) : Bool := (asciiDigit? c).any (· < base)
  let ds := (cs.take most).takeWhile isDigit
  if ds.isEmpty then none
  else some (Char.ofNat (digitsValue base (ds.filterMap asciiDigit?) % 256), cs.drop ds.length)

/-- The character that an escape with a number or a letter stands for, and what follows. -/
private def escaped? : List Char → Option (Char × List Char)
  | 'x' :: rest => coded 16 2 rest
  | 'o' :: rest => coded 8 3 rest
  | 'd' :: rest => coded 10 3 rest
  | 'c' :: c :: rest => some (Char.ofNat (c.toUpper.toNat ^^^ 64), rest)
  | c :: rest => (Regex.controlChar? c).map fun d => (d, rest)
  | [] => none

/-- A text with the characters that codes name in their place. A kept one stays behind a backslash. -/
private def decoded (isKept : Char → Bool) : (fuel : Nat) → List Char → List Char
  | 0, cs => cs
  | _, [] => []
  | fuel + 1, '\\' :: c :: rest =>
    match if ['x', 'o', 'd'].contains c then escaped? (c :: rest) else none with
    | some (d, rest) => (if isKept d then ['\\', d] else [d]) ++ decoded isKept fuel rest
    | none => '\\' :: c :: decoded isKept fuel rest
  | fuel + 1, c :: rest => c :: decoded isKept fuel rest

/-! ### Expressions -/

/-- The expression of a text; an empty one stands for the last expression used. -/
private def pattern (form : EditForm) (ignoresCase multiline : Bool) (text : List Char) :
    Reader (Option Regex) := do
  if text.isEmpty then return none
  let form : RegexForm :=
    { extended := form.extended, ignoresCase, multiline, hasEscapes := true, isStrict := form.extended }
  match Regex.read form (decoded (fun _ => false) text.length text) with
  | .ok (r, _) => return some r
  | .error fault => fail fault.message

/-! ### Addresses -/

/-- The letters behind an expression: whether case does not count, and whether lines are taken one by
one. -/
private def patternFlags : (fuel : Nat) → Bool × Bool → Reader (Bool × Bool)
  | 0, found => return found
  | fuel + 1, (ignoresCase, multiline) => do
    match ← nextFilled with
    | some 'I' => patternFlags fuel (true, multiline)
    | some 'M' => patternFlags fuel (ignoresCase, true)
    | c =>
      putBack c
      return (ignoresCase, multiline)

/-- An address, if one comes next. -/
private def address? (form : EditForm) : Reader (Option EditAddress) := do
  skipBlanks
  match ← get with
  | '$' :: rest =>
    set rest
    return some .last
  | '+' :: rest =>
    set rest
    return some (.further ((← number?).getD 0))
  | '~' :: rest =>
    set rest
    return some (.multiple ((← number?).getD 0))
  | '/' :: _ | '\\' :: _ =>
    let mark ← match ← nextChar with
      | some '\\' => nextChar
      | c => pure c
    let text ← delimited (mark.getD '/') true "unterminated address regex"
    let (ignoresCase, multiline) ← patternFlags ((← get).length + 1) (false, false)
    return some (.holding (← pattern form ignoresCase multiline text))
  | c :: _ =>
    if c.isDigit then
      let n ← number
      skipBlanks
      match ← get with
      | '~' :: rest =>
        set rest
        let step := (← number?).getD 0
        return some (if step = 0 then .line n else .every n step)
      | _ => return some (.line n)
    else return none
  | [] => return none

/-! ### Commands -/

/-- What may stand behind a command. -/
private def endOfCommand : Reader Unit := do
  match ← nextFilled with
  | none | some '\n' | some ';' => return
  | some '}' => putBack (some '}')
  | some '#' => putBack (some '#')
  | some _ => fail "extra characters after command"

/-- A name up to the end of the line. -/
private def fileName : Reader String := do
  skipBlanks
  let cs ← get
  let name := cs.takeWhile (· ≠ '\n')
  set (cs.drop (name.length + 1))
  if name.isEmpty then fail "missing filename in r/R/w/W commands"
  return String.ofList name

private def labelName : Reader String := do
  skipBlanks
  let cs ← get
  let name := cs.takeWhile fun c => !c.isWhitespace && c ≠ ';' && c ≠ '}'
  set (cs.drop name.length)
  return String.ofList name

/-- A text without the backslashes that keep characters, up to the end of its last line. -/
private def textLines : (fuel : Nat) → List Char → List Char × List Char
  | 0, cs => ([], cs)
  | _, [] => ([], [])
  | _, '\n' :: rest => ([], rest)
  | _, ['\\'] => ([], [])
  | fuel + 1, '\\' :: c :: rest =>
    match if c = '\n' then none else escaped? (c :: rest) with
    | some (d, rest) =>
      let (more, rest) := textLines fuel rest
      (d :: more, rest)
    | none =>
      let (more, rest) := textLines fuel rest
      (c :: more, rest)
  | fuel + 1, c :: rest =>
    let (more, rest) := textLines fuel rest
    (c :: more, rest)

/-- The text of a command that adds lines. -/
private def addedText : Reader (List Char) := do
  skipBlanks
  let cs ← get
  let body ← match cs with
    | [] => fail "expected \\ after \x60a', \x60c' or \x60i'"
    | '\\' :: rest =>
      match rest.dropWhile isBlank with
      | '\n' :: below => pure below
      | [] => pure []
      | _ => pure rest
    | cs => pure cs
  let (text, rest) := textLines (body.length + 1) body
  set rest
  return if cs = ['\\'] then [] else text ++ ['\n']

/-- The parts of a replacement. -/
private def parts : (fuel : Nat) → List Char → List EditPart
  | 0, _ | _, [] => []
  | fuel + 1, '&' :: rest => .group 0 :: parts fuel rest
  | fuel + 1, '\\' :: c :: rest =>
    if c.isDigit then .group (c.toNat - 48) :: parts fuel rest
    else if "ULEul".toList.contains c then .case c :: parts fuel rest
    else match escaped? (c :: rest) with
      | some (d, rest) => .text [d] :: parts fuel rest
      | none => .text [c] :: parts fuel rest
  | fuel + 1, c :: rest => .text [c] :: parts fuel rest

/-- Options of a substitution as they are read. -/
private structure SubstitutionFlags where
  all : Bool := false
  prints : Bool := false
  number : Option Nat := none
  ignoresCase : Bool := false
  multiline : Bool := false
  target : Option String := none

private def substitutionFlags : (fuel : Nat) → SubstitutionFlags → Reader SubstitutionFlags
  | 0, f => return f
  | fuel + 1, f => do
    match ← nextChar with
    | none | some '\n' | some ';' => return f
    | some c =>
      if c = ' ' || c = '\t' || c = '\x0d' then substitutionFlags fuel f
      else if c = '}' || c = '#' then
        putBack (some c)
        return f
      else if c = 'i' || c = 'I' then substitutionFlags fuel { f with ignoresCase := true }
      else if c = 'm' || c = 'M' then substitutionFlags fuel { f with multiline := true }
      else if c = 'g' then
        if f.all then fail "multiple \x60g' options to \x60s' command"
        substitutionFlags fuel { f with all := true }
      else if c = 'p' then
        if f.prints then fail "multiple \x60p' options to \x60s' command"
        substitutionFlags fuel { f with prints := true }
      else if c = 'w' then return { f with target := some (← fileName) }
      else if c.isDigit then
        if f.number.isSome then fail "multiple number options to \x60s' command"
        putBack (some c)
        let n ← number
        if n = 0 then fail "number option to \x60s' command may not be zero"
        substitutionFlags fuel { f with number := some n }
      else fail "unknown option to \x60s'"

private def substitution (form : EditForm) : Reader EditAction := do
  let complaint := "unterminated \x60s' command"
  match ← nextChar with
  | none => fail complaint
  | some mark =>
    if mark = '\n' || mark = '\\' then fail complaint
    let text ← delimited mark true complaint
    let new ← delimited mark false complaint
    let flags ← substitutionFlags ((← get).length + 1) {}
    let r ← pattern form flags.ignoresCase flags.multiline text
    let ps := parts (new.length + 1) new
    let highest := (ps.map fun
      | .group n => n
      | _ => 0).foldl max 0
    if r.any fun r => r.groupCount < highest then
      fail ("invalid reference \\" ++ toString highest ++ " on \x60s' command's RHS")
    return .substitute
      { pattern := r, parts := ps, first := flags.number.getD 1, all := flags.all
        prints := flags.prints, target := flags.target }

/-- A set of characters without its backslashes. -/
private def plainChars : List Char → List Char
  | '\\' :: '\\' :: rest => '\\' :: plainChars rest
  | '\\' :: c :: rest =>
    match Regex.controlChar? c with
    | some d => d :: plainChars rest
    | none => c :: plainChars rest
  | c :: rest => c :: plainChars rest
  | [] => []

private def exchange : Reader EditAction := do
  let complaint := "unterminated \x60y' command"
  match ← nextChar with
  | none => fail complaint
  | some mark =>
    let chars (text : List Char) : List Char := plainChars (decoded (· = '\\') text.length text)
    let source := chars (← delimited mark false complaint)
    let target := chars (← delimited mark false complaint)
    if source.length ≠ target.length then fail "strings for \x60y' command are different lengths"
    endOfCommand
    return .exchangeChars source target

/-- The action of a letter. -/
private def actionOf (form : EditForm) (hasFirst hasRange : Bool) (letter : Char) :
    Reader EditAction := do
  let simple (a : EditAction) : Reader EditAction := do
    endOfCommand
    return a
  let oneAddress : Reader Unit := if hasRange then fail "command only uses one address" else pure ()
  match letter with
  | '\x7b' => return .opening
  | '}' =>
    if hasFirst then fail "\x7d doesn't want any addresses"
    simple .closing
  | ':' =>
    if hasFirst then fail ": doesn't want any addresses"
    let name ← labelName
    if name = "" then fail "\":\" lacks a label"
    return .label name
  | '=' => simple .number
  | 'a' => return .append (← addedText)
  | 'i' => return .insert (← addedText)
  | 'c' => return .change (← addedText)
  | 'b' =>
    let name ← labelName
    simple (.jump name)
  | 't' =>
    let name ← labelName
    simple (.jumpIfReplaced name)
  | 'T' =>
    let name ← labelName
    simple (.jumpUnlessReplaced name)
  | 'd' => simple .delete
  | 'D' => simple .deleteFirst
  | 'F' => simple .fileName
  | 'g' => simple .takeHold
  | 'G' => simple .addHold
  | 'h' => simple .hold
  | 'H' => simple .addToHold
  | 'x' => simple .exchange
  | 'n' => simple .next
  | 'N' => simple .addNext
  | 'p' => simple .print
  | 'P' => simple .printFirst
  | 'z' => simple .clear
  | 'l' =>
    let width ← number?
    simple (.list width)
  | 'q' =>
    oneAddress
    let status ← number?
    simple (.quit (status.getD 0))
  | 'Q' =>
    oneAddress
    let status ← number?
    simple (.quitSilently (status.getD 0))
  | 'r' => return .readFile (← fileName)
  | 'R' => return .readLine (← fileName)
  | 'w' => return .write (← fileName)
  | 'W' => return .writeFirst (← fileName)
  | 's' => substitution form
  | 'y' => exchange
  | c => fail ("unknown command: \x60" ++ String.ofList [c, '\''])

/-- One command; `none` behind the last one. The number counts the blocks that are open. -/
private def command? (form : EditForm) (depth : Nat) : Reader (Option EditCommand) := do
  modify fun cs => cs.dropWhile fun c => c.isWhitespace || c = ';'
  if (← get).isEmpty then return none
  let first ← address? form
  match first with
  | some (.further _) | some (.multiple _) =>
    fail "invalid usage of +N or ~N as first address"
  | _ => pure ()
  let c ← nextFilled
  let (last, c) ← if first.isSome && c = some ',' then do
      match ← address? form with
      | some a => pure (some a, ← nextFilled)
      | none =>
        let _ ← nextChar
        fail "unexpected \x60,'"
    else pure (none, c)
  if first = some (.line 0) && !(last matches some (.holding _)) then
    fail "invalid usage of line address 0"
  let (negated, c) ← if c = some '!' then do
      let c ← nextFilled
      if c = some '!' then fail "multiple \x60!'s"
      pure (true, c)
    else pure (false, c)
  match c with
  | none => fail "missing command"
  | some '#' =>
    if first.isSome then fail "comments don't accept any addresses"
    modify fun cs => cs.dropWhile (· ≠ '\n')
    return some { action := .label "" }
  | some c =>
    if c = '}' && depth = 0 then fail "unexpected \x60\x7d'"
    let a ← actionOf form first.isSome last.isSome c
    return some { first, last, negated, action := a }

/-- The commands of a text, and the number of blocks that are open behind it. -/
private def commands (form : EditForm) : (fuel : Nat) → (depth : Nat) →
    Reader (List EditCommand × Nat)
  | 0, depth => return ([], depth)
  | fuel + 1, depth => do
    match ← command? form depth with
    | none => return ([], depth)
    | some c =>
      let depth := match c.action with
        | .opening => depth + 1
        | .closing => depth - 1
        | _ => depth
      let (more, depth) ← commands form fuel depth
      return (c :: more, depth)

/-- The commands of a text, and the number of blocks that are open behind it; before it, `depth`
blocks are open. -/
def readAll (form : EditForm) (depth : Nat) (text : List Char) :
    Except EditFault (List EditCommand × Nat) := do
  let (found, _) ← (commands form (text.length + 1) depth).run text
  return found

end EditCommand

end StepFlow.Shell
