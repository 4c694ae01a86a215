import StepFlow.Fields
import StepFlow.Shell.Script.Basic

/-!
# The text of a script

A reader holds what remains of a script and the number of the line it is in, and stops at the first
mistake.

## Main definitions

* `Reading` — readers
* `skipBlanks`, `skipLines` — what stands between words and between commands
* `enclosed`, `commandText`, `backquoted` — texts up to a closing mark
-/

namespace StepFlow.Shell

/-- A mistake in a script. -/
structure Mistake where
  line : Nat
  message : String
  deriving DecidableEq, Repr, Inhabited

/-! ### Reading characters -/

/-- What remains of a script, and the number of its line. -/
structure Source where
  rest : List Char
  line : Nat := 1
  /-- Lines that have been taken out behind the current one. -/
  taken : Nat := 0
  /-- The words that stand for other texts where a command begins. -/
  aliases : Fields String := []
  deriving Repr, Inhabited

abbrev Reading := StateT Source (Except Mistake)

namespace Reading

def fail {α : Type} (message : String) : Reading α := do
  throw ⟨(← get).line, message⟩

/-- A mistake that stops a reader which has run out of steps. -/
def exhausted {α : Type} : Reading α := fail "Syntax error: script too long"

/-- The characters that remain. -/
def ahead : Reading (List Char) := return (← get).rest

/-- Pass over `n` characters. -/
def skip (n : Nat) : Reading Unit :=
  modify fun s =>
    let ends := ((s.rest.take n).filter (· = '\n')).length
    if ends = 0 then { s with rest := s.rest.drop n }
    else { s with rest := s.rest.drop n, line := s.line + ends + s.taken, taken := 0 }

/-- Pass over a text if it comes next. -/
def skipIf (text : List Char) : Reading Bool := do
  if text.isPrefixOf (← ahead) then
    skip text.length
    return true
  else return false

end Reading

open Reading

/-- A character that ends an unquoted word. -/
def endsWord (c : Char) : Bool := " \t\n;&|()<>".toList.contains c

def isNameStart (c : Char) : Bool := c.isAlpha || c = '_'

def isNameChar (c : Char) : Bool := c.isAlphanum || c = '_'

/-- Blanks, continued lines and comments. -/
def skipBlanks : (fuel : Nat) → Reading Unit
  | 0 => return
  | fuel + 1 => do
    match ← ahead with
    | ' ' :: _ | '\t' :: _ =>
      skip 1
      skipBlanks fuel
    | '\\' :: '\n' :: _ =>
      skip 2
      skipBlanks fuel
    | '#' :: rest =>
      skip (1 + (rest.takeWhile (· ≠ '\n')).length)
      skipBlanks fuel
    | _ => return

/-- Blanks and line ends. -/
def skipLines : (fuel : Nat) → Reading Unit
  | 0 => return
  | fuel + 1 => do
    skipBlanks (← ahead).length
    if ← skipIf ['\n'] then skipLines fuel

/-! ### Enclosed texts -/

/-- The mark of the older form of command output. -/
def backquote : Char := '\x60'

/-- The text up to the parenthesis that closes `depth` open ones; quotes and escapes inside it are
passed over whole. The reader stops behind the parenthesis; if there is none, the mistake is
`unclosed`. -/
def enclosed (unclosed : String) : (fuel depth : Nat) → Reading (List Char)
  | 0, _ => fail unclosed
  | fuel + 1, depth => do
    match ← ahead with
    | [] => fail unclosed
    | '\\' :: c :: _ =>
      skip 2
      return '\\' :: c :: (← enclosed unclosed fuel depth)
    | '\'' :: rest =>
      let inside := rest.takeWhile (· ≠ '\'')
      if inside.length = rest.length then fail "Syntax error: Unterminated quoted string"
      skip (inside.length + 2)
      return '\'' :: inside ++ '\'' :: (← enclosed unclosed fuel depth)
    | c :: _ =>
      skip 1
      if c = ')' then
        if depth = 0 then return [] else return c :: (← enclosed unclosed fuel (depth - 1))
      else return c :: (← enclosed unclosed fuel (if c = '(' then depth + 1 else depth))

/-- What is open within the text of a command. -/
inductive Opened where
  | parenthesis
  | brace
  | quotes
  /-- A selection, in which patterns end with parentheses that close nothing. -/
  | selection
  deriving DecidableEq, Repr, Inhabited

/-- Words behind which a command begins. -/
private def opensCommand : List String :=
  ["!", "\x7b", "if", "then", "elif", "else", "while", "until", "do"]

/-- Where the text of a command stands: what is open, whether a command begins here, and whether a word
does. -/
private structure CommandPlace where
  opened : List Opened := []
  atCommand : Bool := true
  atWord : Bool := true

/-- The characters that come next in the text of a command, and where the text stands behind them;
`none` if that is its end. -/
private def commandPart (p : CommandPlace) : List Char → Option (List Char × CommandPlace)
  | [] => none
  | '\\' :: c :: _ => some (['\\', c], { p with atCommand := false, atWord := false })
  | '$' :: '(' :: _ => some (['$', '('], ⟨.parenthesis :: p.opened, true, true⟩)
  | '$' :: '\x7b' :: _ => some (['$', '\x7b'], ⟨.brace :: p.opened, false, false⟩)
  | c :: rest =>
    let inQuotes := p.opened.head? = some .quotes
    let inBraces := p.opened.head? = some .brace
    let goOn (atCommand atWord : Bool) : Option (List Char × CommandPlace) :=
      some ([c], { p with atCommand, atWord })
    if c = '"' then
      some ([c], ⟨if inQuotes then p.opened.drop 1 else .quotes :: p.opened, false, false⟩)
    else if c = backquote then
      let inside := rest.takeWhile (· ≠ backquote)
      some (c :: inside ++ [c], { p with atCommand := false, atWord := false })
    else if inQuotes then goOn false false
    else if c = '\'' then
      let inside := rest.takeWhile (· ≠ '\'')
      some (c :: inside ++ (if inside.length = rest.length then [] else [c]),
        { p with atCommand := false, atWord := false })
    else if inBraces then
      if c = '\x7d' then some ([c], ⟨p.opened.drop 1, false, false⟩) else goOn false false
    else if c = '#' && p.atWord then some (c :: rest.takeWhile (· ≠ '\n'), p)
    else if c = ' ' || c = '\t' then goOn p.atCommand true
    else if c = '(' then some ([c], ⟨.parenthesis :: p.opened, true, true⟩)
    else if c = ')' then
      match p.opened with
      | .selection :: _ => goOn true true
      | .parenthesis :: outer => some ([c], ⟨outer, false, true⟩)
      | _ => none
    else if endsWord c then goOn true true
    else if !p.atWord then goOn false false
    else
      let word := c :: rest.takeWhile Char.isAlphanum
      let name := String.ofList word
      let inSelection := p.opened.head? = some .selection
      let place : CommandPlace :=
        if p.atCommand && name = "case" then ⟨.selection :: p.opened, false, false⟩
        else if inSelection && p.atCommand && name = "esac" then ⟨p.opened.drop 1, false, false⟩
        else if inSelection && name = "in" then ⟨p.opened, true, false⟩
        else ⟨p.opened, p.atCommand && opensCommand.contains name, false⟩
      some (word, place)

/-- The text of a command up to the parenthesis that closes it. The reader stops behind that. -/
private def commandTextFrom (unclosed : String) : (fuel : Nat) → CommandPlace → Reading (List Char)
  | 0, _ => fail unclosed
  | fuel + 1, p => do
    match commandPart p (← ahead) with
    | some (part, p) =>
      skip part.length
      return part ++ (← commandTextFrom unclosed fuel p)
    | none =>
      unless ← skipIf [')'] do fail unclosed
      return []

/-- The text of a command up to the parenthesis that closes it. The reader stops behind that; if there
is none, the mistake is `unclosed`. -/
def commandText (unclosed : String) : Reading (List Char) := do
  commandTextFrom unclosed ((← ahead).length + 1) {}

/-- The text up to a backquote; a backslash keeps one from closing it, and in a quoted text also a
double quote from being one. -/
def backquoted (quoted : Bool) : (fuel : Nat) → Reading (List Char)
  | 0 => fail "Syntax error: EOF in backquote substitution"
  | fuel + 1 => do
    match ← ahead with
    | [] => fail "Syntax error: EOF in backquote substitution"
    | '\\' :: c :: _ =>
      skip 2
      let kept :=
        if c = backquote || c = '\\' || c = '$' || (quoted && c = '"') then [c] else ['\\', c]
      return kept ++ (← backquoted quoted fuel)
    | c :: _ =>
      skip 1
      if c = backquote then return [] else return c :: (← backquoted quoted fuel)

end StepFlow.Shell
