import StepFlow.Shell.Script.Command

/-!
# Reading scripts

Compound commands, lists and whole scripts. A script is read line by line, so that the lines before a
mistake can be carried out.

## Main definitions

* `list`, `command` — lists of commands and single commands
* `Script.next` — the next line of a script
-/

namespace StepFlow.Shell

open Reading

/-! ### Compound commands -/

def requireReserved (text : String) : Reading Unit := do
  unless ← skipReserved text do unexpected (some text)

/-- Put the text that the next word stands for in its place, as long as it is a word that stands for
one; each does so once. -/
def replaceAliases (aliases : Fields String) : (fuel : Nat) → Reading Unit
  | 0 => return
  | fuel + 1 => do
    skipBlanks (← ahead).length
    let word := (← ahead).takeWhile (!endsWord ·)
    let name := String.ofList word
    if reserved.contains name then return
    match aliases.get? name with
    | some text =>
      modify fun s => { s with rest := text.toList ++ s.rest.drop word.length }
      replaceAliases (aliases.filter (·.1 ≠ name)) fuel
    | none => return

/-- The end of a list of commands: a reserved word that closes something, a closing parenthesis or the
end of a case. -/
def atListEnd : Reading Bool := do
  match ← reserved? with
  | some w => return ["\x7d", "then", "elif", "else", "fi", "do", "done", "esac"].contains w
  | none =>
    match ← ahead with
    | [] | ')' :: _ | ';' :: ';' :: _ => return true
    | _ => return false

/-- The patterns of a case, up to the closing parenthesis. -/
def casePatterns : (fuel : Nat) → Reading (List Word)
  | 0 => exhausted
  | fuel + 1 => do
    skipBlanks (← ahead).length
    match ← word? with
    | none => unexpected (some ")")
    | some w =>
      skipBlanks (← ahead).length
      if ← skipIf ['|'] then return w :: (← casePatterns fuel)
      else if ← skipIf [')'] then return [w]
      else unexpected (some ")")

/-- The variable of a loop. -/
def loopVariable : Reading String := do
  skipBlanks (← ahead).length
  let name := (← ahead).takeWhile (!endsWord ·)
  if (name.head?.any isNameStart) && name.all isNameChar then
    skip name.length
    return String.ofList name
  else fail "Syntax error: Bad for loop variable"

/-- The words that a loop runs through. -/
def loopWords : (fuel : Nat) → Reading (List Word)
  | 0 => return []
  | fuel + 1 => do
    skipBlanks (← ahead).length
    match ← word? with
    | some w => return w :: (← loopWords fuel)
    | none => return []

/-- Pass over the name of a function that is defined here, if that is so: a word and parentheses. -/
def functionName? : Reading (Option String) := do
  let cs ← ahead
  let name := cs.takeWhile (!endsWord ·)
  let isBlank (c : Char) : Bool := c = ' ' || c = '\t'
  let gap := (cs.drop name.length).takeWhile isBlank
  let behind := cs.drop (name.length + gap.length)
  if !name.isEmpty && !name.contains '=' && !reserved.contains (String.ofList name)
      && behind.head? = some '(' then
    skip (name.length + gap.length + 1)
    skipBlanks (← ahead).length
    unless ← skipIf [')'] do
      if (← reserved?).isSome then fail "Syntax error: word unexpected (expecting \")\")"
      unexpected (some ")")
    unless (name.head?.any isNameStart) && name.all isNameChar do
      fail "Syntax error: Bad function name"
    return some (String.ofList name)
  else return none

mutual

/-- A list of commands up to what closes it. Without `lines` it ends with the line. The `first` command
of a list has to be there, unless the script ends. -/
def list (lines first : Bool) : (fuel : Nat) → Reading (List Script)
  | 0 => exhausted
  | fuel + 1 => do
    if lines then skipLines (← ahead).length else skipBlanks (← ahead).length
    match ← ahead with
    | [] | '\n' :: _ => return []
    | _ =>
      if lines && !first && (← atListEnd) then return []
      let s ← andOr fuel
      skipBlanks (← ahead).length
      match ← ahead with
      | ';' :: ';' :: _ => return [s]
      | ';' :: _ =>
        skip 1
        return s :: (← list lines false fuel)
      | '&' :: _ =>
        skip 1
        return .background s :: (← list lines false fuel)
      | '\n' :: _ => if lines then return s :: (← list lines false fuel) else return [s]
      | [] => return [s]
      | _ => if lines then return [s] else unexpected none

/-- Pipelines joined by `&&` and `||`. -/
def andOr : (fuel : Nat) → Reading Script
  | 0 => exhausted
  | fuel + 1 => do
    let s ← pipeline fuel
    andOrRest s fuel

def andOrRest (s : Script) : (fuel : Nat) → Reading Script
  | 0 => exhausted
  | fuel + 1 => do
    skipBlanks (← ahead).length
    if ← skipIf ['&', '&'] then
      skipLines (← ahead).length
      andOrRest (.both s (← pipeline fuel)) fuel
    else if ← skipIf ['|', '|'] then
      skipLines (← ahead).length
      andOrRest (.either s (← pipeline fuel)) fuel
    else return s

def pipeline : (fuel : Nat) → Reading Script
  | 0 => exhausted
  | fuel + 1 => do
    let negated ← skipReserved "!"
    let parts ← pipelineParts fuel
    match parts with
    | [s] => if negated then return .pipeline true [s] else return s
    | parts => return .pipeline negated parts

def pipelineParts : (fuel : Nat) → Reading (List Script)
  | 0 => exhausted
  | fuel + 1 => do
    let s ← command fuel
    skipBlanks (← ahead).length
    match ← ahead with
    | '|' :: '|' :: _ => return [s]
    | '|' :: _ =>
      skip 1
      skipLines (← ahead).length
      return s :: (← pipelineParts fuel)
    | _ => return [s]

/-- The commands inside a compound command. -/
def body (fuel : Nat) : Reading Script :=
  match fuel with
  | 0 => exhausted
  | fuel + 1 => do
    match ← list true true fuel with
    | [s] => return s
    | parts => return .sequence parts

/-- The parts of a condition from behind `then` on. -/
def elseParts : (fuel : Nat) → Reading Script
  | 0 => exhausted
  | fuel + 1 => do
    if ← skipReserved "elif" then
      let condition ← body fuel
      requireReserved "then"
      let thenPart ← body fuel
      return .branch condition thenPart (← elseParts fuel)
    else if ← skipReserved "else" then
      let s ← body fuel
      requireReserved "fi"
      return s
    else
      requireReserved "fi"
      return .sequence []

/-- The cases of a selection, up to its end. -/
def cases : (fuel : Nat) → Reading (List (List Word × Script))
  | 0 => exhausted
  | fuel + 1 => do
    skipLines (← ahead).length
    if ← skipReserved "esac" then return []
    let _ ← skipIf ['(']
    let patterns ← casePatterns (← ahead).length.succ
    let parts ← list true false fuel
    unless ← skipIf [';', ';'] do
      if (← reserved?) ≠ some "esac" then unexpected (some ";;")
    return (patterns, .sequence parts) :: (← cases fuel)

/-- A command that a reserved word or a parenthesis begins, if one comes next. -/
def compound? : (fuel : Nat) → Reading (Option Script)
  | 0 => exhausted
  | fuel + 1 => do
    if ← skipIf ['('] then
      let s ← body fuel
      unless ← skipIf [')'] do unexpected (some ")")
      return some (.subshell s (← redirects (← ahead).length))
    else if ← skipReserved "\x7b" then
      let s ← body fuel
      requireReserved "\x7d"
      return some (.group s [])
    else if ← skipReserved "if" then
      let condition ← body fuel
      requireReserved "then"
      let thenPart ← body fuel
      return some (.branch condition thenPart (← elseParts fuel))
    else if ← skipReserved "while" then return some (← loopRest false fuel)
    else if ← skipReserved "until" then return some (← loopRest true fuel)
    else if ← skipReserved "for" then
      let name ← loopVariable
      skipLines (← ahead).length
      let words ←
        if ← skipReserved "in" then
          let words ← loopWords (← ahead).length.succ
          match ← ahead with
          | ';' :: ';' :: _ => unexpected none
          | ';' :: _ => skip 1
          | '\n' :: _ => pure ()
          | _ => unexpected none
          pure words
        else
          let _ ← skipIf [';']
          pure [[.variable "@" .plain [] true]]
      skipLines (← ahead).length
      requireReserved "do"
      let s ← body fuel
      requireReserved "done"
      return some (.forEach name words s)
    else if ← skipReserved "case" then
      skipBlanks (← ahead).length
      match ← word? with
      | none => unexpected (some "word")
      | some w =>
        skipLines (← ahead).length
        requireReserved "in"
        return some (.select w (← cases fuel))
    else return none

/-- One command, with its redirections. -/
def command : (fuel : Nat) → Reading Script
  | 0 => exhausted
  | fuel + 1 => do
    replaceAliases (← get).aliases (← get).aliases.length
    skipBlanks (← ahead).length
    let line := (← get).line
    match ← functionName? with
    | some name =>
      skipLines (← ahead).length
      return .define name (← command fuel)
    | none =>
      match ← compound? fuel with
      | some s =>
        match ← redirects (← ahead).length.succ with
        | [] => return s
        | rs => return .group s rs
      | none =>
        if (← reserved?).isSome then unexpected none
        let (as, ws, rs) ← simpleParts ((← ahead).length + 1) [] [] []
        if as.isEmpty && ws.isEmpty && rs.isEmpty then unexpected none
        return .simple line as ws rs

/-- A loop from behind its first word on. -/
def loopRest (untilTrue : Bool) : (fuel : Nat) → Reading Script
  | 0 => exhausted
  | fuel + 1 => do
    let condition ← body fuel
    requireReserved "do"
    let s ← body fuel
    requireReserved "done"
    return .loop untilTrue condition s

end

/-! ### Whole scripts -/

/-- The commands of the next line that has some; `none` at the end of a script. -/
def Script.next : Reading (Option Script) := do
  skipLines (← ahead).length.succ
  if (← ahead).isEmpty then return none
  let parts ← list false true (16 * (← ahead).length + 64)
  match ← ahead with
  | [] => pure ()
  | '\n' :: _ => skip 1
  | _ => unexpected none
  return some (.sequence parts)

end StepFlow.Shell
