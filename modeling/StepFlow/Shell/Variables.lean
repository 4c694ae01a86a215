import StepFlow.Shell.Signals

/-!
# Commands for variables

The commands that give variables values: from their arguments, from a line of the input, or from the
options among the arguments of the session.

## Main definitions

* `export`, `readonly`, `local`, `unset`, `shift`
* `read` — a line of the input
* `getopts` — the next option
-/

namespace StepFlow.Shell

/-! ### Values from arguments -/

/-- A name and a value joined by an equals sign. -/
def assignmentText? (s : String) : Option (String × String) :=
  match s.toList.span (· ≠ '=') with
  | (name, _ :: value) => some (String.ofList name, String.ofList value)
  | (_, []) => none

/-- A text is the name of a variable. -/
def isVariableName (name : String) : Bool :=
  match name.toList with
  | c :: cs => isNameStart c && cs.all isNameChar
  | [] => false

/-- The rank of a name among those that a shell lists as it keeps them. -/
def tableRank (name : String) : Nat :=
  let codes := (bytesOf name).map UInt8.toNat
  (codes.headD 0 * 16 + codes.foldl (· + ·) 0) % 39

/-- Give variables values where there are some; gives the names. -/
private def assigned (args : List String) : Acting (List String) :=
  args.mapM fun a => do
    let (name, value) := (assignmentText? a).getD (a, "")
    unless isVariableName name do abort s!"{name}: bad variable name"
    if name.length < a.length then setVariable name value
    return name

/-- Show variables of a kind as commands that make them. -/
private def showVariables (st : Streams) (command : String) (names : List String) : Acting Unit := do
  let s ← get
  for n in sortedTexts names do
    match s.vars.get? n with
    | some v => emitText st.out s!"{command} {n}={singleQuoted v}\n"
    | none => emitText st.out s!"{command} {n}\n"

/-- The arguments that name variables; `none` if variables are to be shown. -/
private def namesGiven (args : List String) : Acting (Option (List String)) := do
  match args with
  | [] => return none
  | "--" :: rest => return if rest.isEmpty then none else some rest
  | "-p" :: rest => return if rest.isEmpty then none else some rest
  | a :: _ =>
    match a.toList with
    | '-' :: c :: _ => abort s!"Illegal option -{c}"
    | _ => return some args

def «export» : Program := fun st args => do
  match ← namesGiven args with
  | none => showVariables st "export" (← get).exported
  | some args =>
    let names ← assigned args
    modify fun s =>
      { s with exported := s.exported ++ names.filter fun n => !s.exported.contains n }
  return 0

def readonly : Program := fun st args => do
  match ← namesGiven args with
  | none => showVariables st "readonly" (← get).constants
  | some args =>
    let names ← assigned args
    modify fun s => { s with constants := s.constants.filter (!names.contains ·) ++ names }
  return 0

/-- Let a function have variables for itself. -/
def «local» : Program := fun _ args => do
  if (← get).functionDepth = 0 then abort "not in a function"
  for a in args do
    let name := (assignmentText? a).elim a (·.1)
    modify fun s =>
      if s.locals.any (·.1 == name) then s
      else { s with locals := (name, s.vars.get? name) :: s.locals }
  let _ ← assigned args
  return 0

/-- Remove variables or functions. -/
def unset : Program := fun _ args => do
  let isFunction := args.head? = some "-f"
  let names := args.filter fun a => a ≠ "-v" && a ≠ "-f" && a ≠ "--"
  if isFunction then
    modify fun s => { s with functions := s.functions.filter fun f => !names.contains f.1 }
    return 0
  for name in names do
    unless isVariableName name do abort s!"{name}: bad variable name"
    if (← get).constants.contains name then abort s!"{name}: is read only"
    modify fun s => { s with
      vars := s.vars.filter fun v => v.1 ≠ name, exported := s.exported.filter (· ≠ name) }
  return 0

def shift : Program := fun _ args => do
  let n ← numberArgument (args.headD "1")
  let s ← get
  if s.arguments.length < n then abort "can't shift that many"
  set { s with arguments := s.arguments.drop n }
  return 0

/-! ### Values from the input -/

/-- The parts of a line at separators: at most `left` of them. The last one keeps what follows it as it
is, but for blanks at the end and for a single mark that ends it. Marked characters separate nothing.
`cut` is the length of the last part without such an end. -/
private def lineParts (marks : List Char) : (left : Nat) → (gap : Bool) → (cut : Option Nat) →
    (part : List Char) → List (Char × Bool) → List (List Char)
  | _, _, cut, part, [] =>
    let part := (cut.map part.take).getD part
    if part.isEmpty then [] else [part]
  | left, _, cut, part, (c, true) :: rest => lineParts marks left false cut (part ++ [c]) rest
  | 0, gap, cut, part, (c, false) :: rest =>
    let isMark := marks.contains c
    if isMark && isBlankMark c then
      lineParts marks 0 gap (cut.orElse fun _ => some part.length) (part ++ [c]) rest
    else lineParts marks 0 false (if isMark && gap then cut else none) (part ++ [c]) rest
  | left + 1, gap, cut, part, (c, false) :: rest =>
    if !marks.contains c then lineParts marks (left + 1) false cut (part ++ [c]) rest
    else if gap then lineParts marks (left + 1) (isBlankMark c) cut [] rest
    else if isBlankMark c && part.isEmpty then lineParts marks (left + 1) false cut [] rest
    else if left = 0 then lineParts marks 0 (isBlankMark c) (some part.length) (part ++ [c]) rest
    else part :: lineParts marks left (isBlankMark c) cut [] rest

/-- The characters of the next line, marked if a backslash keeps them; what follows the line; and
whether it has an end. A backslash joins lines. -/
private def nextLine (raw : Bool) : List Char → List (Char × Bool) × List Char × Bool
  | [] => ([], [], false)
  | '\n' :: rest => ([], rest, true)
  | c :: rest =>
    if c = '\\' && !raw then
      match rest with
      | '\n' :: rest => nextLine raw rest
      | d :: rest =>
        let (line, behind, ended) := nextLine raw rest
        ((d, true) :: line, behind, ended)
      | [] => ([], [], false)
    else
      let (line, behind, ended) := nextLine raw rest
      ((c, false) :: line, behind, ended)

/-- The options of `read`: whether backslashes stand for themselves, and the names behind them. -/
private def readOptions : (fuel : Nat) → (raw : Bool) → List String → Except String (Bool × List String)
  | 0, raw, args => return (raw, args)
  | _, raw, [] => return (raw, [])
  | fuel + 1, raw, a :: rest =>
    match a.toList with
    | ['-', '-'] => return (raw, rest)
    | '-' :: 'r' :: more =>
      if more.isEmpty then readOptions fuel true rest
      else readOptions fuel true (("-" ++ String.ofList more) :: rest)
    | ['-', 'p'] =>
      if rest.isEmpty then throw "No arg for -p option" else readOptions fuel raw (rest.drop 1)
    | '-' :: 'p' :: _ => readOptions fuel raw rest
    | '-' :: c :: _ => throw s!"Illegal option -{c}"
    | _ => return (raw, a :: rest)

/-- Read a line of the input into variables. -/
def read : Program := fun _ args => do
  match readOptions (2 * (String.join args).length + 2) false args with
  | .error message =>
    complain message
    return 2
  | .ok (_, []) =>
    complain "arg count"
    return 2
  | .ok (raw, names) =>
    let s ← get
    let (line, rest, ended) := nextLine raw (charsOf s.feed.bytes)
    keepInput (bytesOfChars rest)
    let marks := argumentChars (String.ofList (separators s))
    let parts := lineParts marks names.length false none [] (line.filter (·.1 ≠ '\x00'))
    for (name, i) in names.zipIdx do
      unless isVariableName name do
        complain s!"{name}: bad variable name"
        return 2
      setVariable name (textOf (bytesOfChars ((parts[i]?).getD [])))
    return if ended then 0 else 1

/-! ### Values from options -/

/-- An option that was looked for among arguments. -/
private structure FoundOption where
  letter : Char
  /-- The value of `OPTARG`; `none` if it is to be unset. -/
  value : Option String
  complaint : Option String := none
  /-- Whether the rest of the argument is passed over. -/
  endsArgument : Bool
  /-- Whether the value is the next argument. -/
  takesNext : Bool := false

/-- What a letter among options stands for, `rest` being what follows it in its argument. The letters
that are known have a colon behind them if they take a value. With a colon before all of them, nothing
is complained about. -/
private def optionFor (known : List Char) (c : Char) (rest : List Char) (next : Option String) :
    FoundOption :=
  let isQuiet := known.head? = some ':'
  let letters := if isQuiet then known.drop 1 else known
  let shown := String.ofList [c]
  match if c = ':' then [] else letters.dropWhile (· ≠ c) with
  | [] =>
    if isQuiet then ⟨'?', some shown, none, rest.isEmpty, false⟩
    else ⟨'?', none, some s!"Illegal option -{c}\n", rest.isEmpty, false⟩
  | _ :: ':' :: _ =>
    if !rest.isEmpty then ⟨c, some (String.ofList rest), none, true, false⟩
    else match next with
      | some v => ⟨c, some v, none, true, true⟩
      | none =>
        if isQuiet then ⟨':', some shown, none, true, false⟩
        else ⟨'?', none, some s!"No arg for -{c} option\n", true, false⟩
  | _ => ⟨c, some "", none, rest.isEmpty, false⟩

/-- Look for the next option among arguments and set variables to it. -/
def getopts : Program := fun st args => do
  match args with
  | known :: name :: given =>
    let s ← get
    let words := if given.isEmpty then s.arguments else given
    let index := max 1 ((natOf? ((s.vars.get? "OPTIND").getD "1")).getD 1)
    -- The characters of the argument before the next one that have not been looked at.
    let inside := match s.optionAt with
      | some (n, passed) =>
        if n = index && 1 < index then ((words[index - 2]?).getD "").toList.drop passed else []
      | none => []
    let finish (letter : String) (index : Nat) (passed : Option Nat) (status : Nat) : Acting Nat := do
      setVariable "OPTIND" (toString index)
      setVariable name letter
      modify fun s => { s with optionAt := passed.map fun n => (index, n) }
      return status
    let option (c : Char) (rest : List Char) (index passed : Nat) : Acting Nat := do
      let next := words[index - 1]?
      let found := optionFor known.toList c rest next
      if let some complaint := found.complaint then emitText st.err complaint
      match found.value with
      | some v => setVariable "OPTARG" v
      | none => modify fun s => { s with vars := s.vars.filter fun v => v.1 ≠ "OPTARG" }
      finish (String.ofList [found.letter]) (if found.takesNext then index + 1 else index)
        (if found.endsArgument then none else some (passed + 1)) 0
    match inside with
    | c :: rest => option c rest index (((words[index - 2]?).getD "").length - rest.length - 1)
    | [] =>
      match (words[index - 1]?).map String.toList with
      | some ['-', '-'] => finish "?" (index + 1) none 1
      | some ('-' :: c :: rest) => option c rest (index + 1) 1
      | _ => finish "?" index none 1
  | _ => abort "Usage: getopts optstring var [arg...]"

end StepFlow.Shell
