import StepFlow.Shell.Programs.Make
import StepFlow.Shell.Variables

/-!
# Commands of the shell itself

The commands that act on the session: its directory, its modes, its aliases, and how it ends. Those that
carry out other commands are not among them.

## Main definitions

* `builtins` — the commands by name
* `isSpecial` — commands whose failures end the session
-/

namespace StepFlow.Shell

/-! ### Ending -/

/-- The exit status that an argument gives; without one, that of the last command. -/
private def statusArgument (args : List String) : Acting Nat := do
  match args with
  | [] => return (← get).status
  | a :: _ =>
    let n ← numberArgument a
    if n < twoTo 31 then return n % 256 else abort s!"Illegal number: {a}"

def exit : Program := fun _ args => do throw (.exited (← statusArgument args))

def return' : Program := fun _ args => do throw (.returned (← statusArgument args))

/-- Leave as many loops as an argument says; outside of loops nothing happens. -/
private def outOfLoops (ending : Nat → Ending) : Program := fun _ args => do
  let n ← numberArgument (args.headD "1")
  if n = 0 then abort "Illegal number: 0"
  let depth := (← get).loopDepth
  if depth = 0 then return 0 else throw (ending (min depth n))

/-! ### Modes -/

/-- Turn one mode on, behind a minus sign, or off, behind a plus sign. -/
private def turnMode (sign : Char) (mode : Option Mode) (shown : String) : Acting Unit := do
  match mode with
  | some mode => modify fun s => { s with modes := mode.turn (sign = '-') s.modes }
  | none => abort s!"Illegal option {sign}{shown}"

/-- Show all modes, or commands that turn them on and off. -/
private def showModes (st : Streams) (asCommands : Bool) : Acting Unit := do
  let s ← get
  unless asCommands do emitText st.out "Current option settings\n"
  for (mode, name, _) in Mode.table do
    let isOn := s.keeps mode
    if asCommands then emitText st.out ((if isOn then "set -o " else "set +o ") ++ name ++ "\n")
    else
      let gap := String.ofList (List.replicate (16 - name.length) ' ')
      emitText st.out (name ++ gap ++ (if isOn then "on" else "off") ++ "\n")

/-- Turn the modes of some letters; the letter `o` stands for the mode that the next argument names.
Gives the arguments that are left. -/
private def turnLetters (st : Streams) (sign : Char) : List Char → List String → Acting (List String)
  | [], rest => return rest
  | 'o' :: cs, [] => do
    showModes st (sign = '+')
    turnLetters st sign cs []
  | 'o' :: cs, name :: rest => do
    turnMode sign (Mode.named? name) ("o " ++ name)
    turnLetters st sign cs rest
  | c :: cs, rest => do
    turnMode sign (Mode.lettered? c) (String.ofList [c])
    turnLetters st sign cs rest

/-- Turn the modes that options name. Gives the arguments behind them, if those are given. -/
def turnModes (st : Streams) : (fuel : Nat) → List String → Acting (Option (List String))
  | 0, _ | _, [] => return none
  | _, "--" :: rest => return some rest
  | fuel + 1, a :: rest => do
    match a.toList with
    | ['-'] => return if rest.isEmpty then none else some rest
    | '-' :: cs => turnModes st fuel (← turnLetters st '-' cs rest)
    | '+' :: cs => turnModes st fuel (← turnLetters st '+' cs rest)
    | _ => return some (a :: rest)

/-- Set modes and arguments, or show all variables. -/
def set' : Program := fun st args => do
  match args with
  | [] =>
    for (name, value) in (← get).vars.sorted do
      emitText st.out s!"{name}={singleQuoted value}\n"
  | args =>
    if let some arguments ← turnModes st args.length args then
      modify fun s => { s with arguments, optionAt := none }
  return 0

/-! ### Aliases -/

/-- Let words stand for other texts, or show what they stand for. -/
def aliasing : Program := fun st args => do
  let line (name text : String) : String := s!"{name}={singleQuoted text}\n"
  if args.isEmpty then
    let all := (← get).aliases.mergeSort fun a b => tableRank a.1 ≤ tableRank b.1
    all.forM fun (name, text) => emitText st.out (line name text)
    return 0
  let mut complete := true
  for a in args do
    match assignmentText? a with
    | some (name, text) => modify fun s => { s with aliases := s.aliases.set name text }
    | none =>
      match (← get).aliases.get? a with
      | some text => emitText st.out (line a text)
      | none =>
        emitText st.err s!"alias: {a} not found\n"
        complete := false
  return statusOf complete

def unalias : Program := fun st args => do
  if args.head? = some "-a" then
    modify fun s => { s with aliases := [] }
    return 0
  let mut complete := true
  for a in args do
    if ((← get).aliases.get? a).isNone then
      emitText st.err s!"unalias: {a} not found\n"
      complete := false
    modify fun s => { s with aliases := s.aliases.filter (·.1 ≠ a) }
  return statusOf complete

/-! ### Directories -/

def cd : Program := fun st args => do
  let s ← get
  let args ← match args with
    | "--" :: rest => pure rest
    | ["-"] => pure args
    | a :: rest =>
      match a.toList with
      | '-' :: 'L' :: _ | '-' :: 'P' :: _ => pure rest
      | '-' :: c :: _ => abort s!"Illegal option -{c}"
      | _ => pure args
    | [] => pure []
  let target := match args with
    | "-" :: _ => (s.vars.get? "OLDPWD").getD ""
    | a :: _ => a
    | [] => (s.vars.get? "HOME").getD ""
  let target := if target = "" then "." else target
  match s.files.list s.here target, s.files.locate s.here target with
  | .ok _, .ok place =>
    let path := "/" ++ "/".intercalate place
    modify fun s => { s with here := place }
    setVariable "OLDPWD" ("/" ++ "/".intercalate s.here)
    setVariable "PWD" path
    if args.head? = some "-" then emitText st.out (path ++ "\n")
    return 0
  | _, _ => abort s!"can't cd to {target}"

/-- The permissions that new files do not get. -/
def umask : Program := fun st args => do
  let mask := (← get).mask
  let allowed := 511 - mask
  match args with
  | [] =>
    emitText st.out ("0" ++ String.ofList ((Nat.toDigits 8 (mask + 512)).drop 1) ++ "\n")
    return 0
  | "-S" :: _ =>
    let letters := (permissionLetters allowed).toList
    let part (i : Nat) : String := String.ofList (((letters.drop (3 * i)).take 3).filter (· ≠ '-'))
    let owner := part 0
    let group := part 1
    let others := part 2
    emitText st.out s!"u={owner},g={group},o={others}\n"
    return 0
  | a :: _ =>
    if a.toList.head?.any Char.isDigit then
      unless a.toList.all fun c => '0' ≤ c && c ≤ '7' do abort s!"Illegal number: {a}"
      let mask := digitsValue 8 (a.toList.filterMap asciiDigit?) % 512
      modify fun s => { s with mask }
      return 0
    else match permissionsBy a false allowed with
      | some p =>
        modify fun s => { s with mask := 511 - p }
        return 0
      | none => if a.toList.all "ugoa".toList.contains then return 0 else abort s!"Illegal mode: {a}"

/-! ### All commands -/

/-- The time that the shell and its children took: none. -/
def times : Program := fun st _ => do
  emitText st.out "0m0.000000s 0m0.000000s\n0m0.000000s 0m0.000000s\n"
  return 0

/-- Limits of the shell, of which there are none. -/
def ulimit : Program := fun st _ => do
  emitText st.out "unlimited\n"
  return 0

/-- The commands of the shell itself. -/
def builtins : Fields Program :=
  [("exit", exit), ("return", return'), ("kill", kill), ("trap", trap), ("export", «export»),
   ("readonly", readonly), ("local", «local»), ("unset", unset), ("shift", shift), ("read", read),
   ("getopts", getopts), ("set", set'), ("alias", aliasing), ("unalias", unalias), ("cd", cd),
   ("chdir", cd), ("umask", umask), ("times", times), ("ulimit", ulimit), (":", fun _ _ => return 0),
   ("jobs", fun _ _ => return 0), ("fg", fun _ _ => abort "No current job"),
   ("bg", fun _ _ => abort "No current job"), ("break", outOfLoops .left),
   ("continue", outOfLoops .skipped), ("echo", echo), ("printf", printf), ("pwd", pwd), ("test", test),
   ("[", bracket), ("true", fun _ _ => return 0), ("false", fun _ _ => return 1)]

/-- A failure of one of these commands, or of a redirection for it, ends the session. -/
def isSpecial (name : String) : Bool :=
  [":", ".", "break", "continue", "eval", "exec", "exit", "export", "local", "readonly", "return", "set",
   "shift", "times", "trap", "unset"].contains name

end StepFlow.Shell
