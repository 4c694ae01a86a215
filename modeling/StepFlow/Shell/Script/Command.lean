import StepFlow.Shell.Script.Word

/-!
# Simple commands

A simple command is a row of assignments, words and redirections. Reserved words have a meaning of
their own where a command begins, and mistakes name what comes instead of what is expected.

## Main definitions

* `reserved?`, `unexpected` — reserved words and mistakes
* `redirect?`, `simpleParts` — redirections and the parts of a simple command
-/

namespace StepFlow.Shell

open Reading

/-! ### Reserved words and mistakes -/

/-- Words that have a meaning of their own where a command begins. -/
def reserved : List String :=
  ["!", "\x7b", "\x7d", "if", "then", "elif", "else", "fi", "while", "until", "for", "do", "done",
   "case", "esac", "in"]

/-- The reserved word that comes next, if one does. -/
def reserved? : Reading (Option String) := do
  skipBlanks (← ahead).length
  let text := String.ofList ((← ahead).takeWhile (!endsWord ·))
  return if reserved.contains text then some text else none

/-- Pass over a reserved word if it comes next. -/
def skipReserved (text : String) : Reading Bool := do
  if (← reserved?) = some text then
    skip text.length
    return true
  else return false

/-- What comes next, as a mistake names it. -/
def nextToken : Reading String := do
  skipBlanks (← ahead).length
  let cs ← ahead
  match cs.dropWhile Char.isDigit with
  | '<' :: _ | '>' :: _ => return "redirection"
  | _ =>
    match cs with
    | [] => return "end of file"
    | '\n' :: _ => return "newline"
    | ';' :: ';' :: _ => return "\";;\""
    | '&' :: '&' :: _ => return "\"&&\""
    | '|' :: '|' :: _ => return "\"||\""
    | c :: _ =>
      if endsWord c then return s!"\"{c}\""
      else match ← reserved? with
        | some w => return s!"\"{w}\""
        | none => return "word"

/-- Something else than what comes next has to come. -/
def unexpected {α : Type} (expected : Option String) : Reading α := do
  let found ← nextToken
  let tail := match expected with
    | some "word" => " (expecting word)"
    | some e => s!" (expecting \"{e}\")"
    | none => ""
  fail s!"Syntax error: {found} unexpected{tail}"

/-! ### Simple commands -/

/-- The text of a word that has no quotes and no expansions. -/
def plainText? : Word → Option (List Char)
  | [] => some []
  | .text cs false :: rest => (plainText? rest).map (cs ++ ·)
  | _ => none

/-- An assignment, if the word is one. -/
def assignment? (w : Word) : Option (String × Word) :=
  go [] w
where
  go (name : List Char) : Word → Option (String × Word)
    | .text [c] false :: rest =>
      if c = '=' then
        if name.isEmpty then none else some (String.ofList name.reverse, rest)
      else if (if name.isEmpty then isNameStart c else isNameChar c) then go (c :: name) rest
      else none
    | _ => none

/-- The word as one quoted text, as far as it is text. -/
def quotedText (w : Word) : List Char :=
  w.flatMap fun
    | .text cs _ => cs
    | _ => []

/-- The lines up to one that consists of a mark, with their ends, and what follows that line. Tabs at
the beginning of lines may be left out. -/
def linesUntil (mark : List Char) (dropTabs : Bool) :
    (fuel : Nat) → List Char → List (List Char) × List Char
  | 0, cs => ([], cs)
  | _, [] => ([], [])
  | fuel + 1, cs =>
    let line := cs.takeWhile (· ≠ '\n')
    let ending := (cs.drop line.length).take 1
    let rest := cs.drop (line.length + 1)
    let line := if dropTabs then line.dropWhile (· = '\t') else line
    if line = mark then ([], rest)
    else
      let (lines, rest) := linesUntil mark dropTabs fuel rest
      ((line ++ ending) :: lines, rest)

/-- Take the text of an inline input out of the lines behind the current one. -/
def inlineInput (mark : Word) (dropTabs : Bool) : Reading Word := do
  let s ← get
  let here := s.rest.takeWhile (· ≠ '\n')
  let behind := s.rest.drop (here.length + 1)
  let (lines, rest) := linesUntil (quotedText mark) dropTabs s.rest.length behind
  let body := lines.flatten
  set { s with rest := here ++ '\n' :: rest, taken := s.taken + lines.length + 1 }
  let isQuoted := mark.any fun
    | .text _ quoted => quoted
    | _ => false
  if isQuoted then return [.text body true]
  else
    let (ps, _) ← (doubleQuoted true (4 * body.length + 4)).run { rest := body, line := s.line }
    return .text [] true :: ps

/-- A redirection, if one comes next. -/
def redirect? : Reading (Option Redirect) := do
  let cs ← ahead
  let digits := cs.takeWhile Char.isDigit
  let sign := cs.drop digits.length
  let given := digits.foldl (fun n c => n * 10 + (c.toNat - '0'.toNat)) 0
  let target (kind : RedirectKind) (length standard : Nat) : Reading (Option Redirect) := do
    skip (digits.length + length)
    skipBlanks (← ahead).length
    match ← word? with
    | some w =>
      let dropTabs := sign.take 3 = ['<', '<', '-']
      let w ← if kind = .inline then inlineInput w dropTabs else pure w
      return some ⟨if digits.isEmpty then standard else given, kind, w⟩
    | none => unexpected none
  match sign with
  | '<' :: '<' :: '-' :: _ => target .inline 3 0
  | '<' :: '<' :: _ => target .inline 2 0
  | '<' :: '&' :: _ => target .duplicate 2 0
  | '<' :: _ => target .input 1 0
  | '>' :: '>' :: _ => target .append 2 1
  | '>' :: '&' :: _ => target .duplicate 2 1
  | '>' :: '|' :: _ => target .overwrite 2 1
  | '>' :: _ => target .output 1 1
  | _ => return none

/-- Redirections, as many as come next. -/
def redirects : (fuel : Nat) → Reading (List Redirect)
  | 0 => return []
  | fuel + 1 => do
    skipBlanks (← ahead).length
    match ← redirect? with
    | some r => return r :: (← redirects fuel)
    | none => return []

/-- Assignments, words and redirections of a simple command. -/
def simpleParts : (fuel : Nat) → List (String × Word) → List Word → List Redirect →
    Reading (List (String × Word) × List Word × List Redirect)
  | 0, _, _, _ => exhausted
  | fuel + 1, as, ws, rs => do
    skipBlanks (← ahead).length
    match ← redirect? with
    | some r => simpleParts fuel as ws (rs ++ [r])
    | none =>
      match ← word? with
      | none => return (as, ws, rs)
      | some w =>
        match if ws.isEmpty then assignment? w else none with
        | some a => simpleParts fuel (as ++ [a]) ws rs
        | none => simpleParts fuel as (ws ++ [w]) rs

end StepFlow.Shell
