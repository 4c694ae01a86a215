import StepFlow.Shell.Evaluator
import StepFlow.Shell.Programs.Rules
import StepFlow.Shell.Programs.Carrying
import StepFlow.Shell.Programs.Find

/-!
# Commands given by their words

A command is a function, a command of the shell itself, or a program. Programs are looked for in the
directories of the search path, and files of the tree may be programs too.

## Main definitions

* `launchWith` — programs
* `callWith` — all commands
-/

namespace StepFlow.Shell

/-! ### Shells -/

/-- What a shell is told to carry out. -/
private inductive ShellSource where
  /-- Its input. -/
  | input
  /-- The text of an argument. -/
  | text
  /-- A file, if one is named, or else its input. -/
  | file
  deriving DecidableEq

/-- The options of a shell, and what follows them; or the option that is none. -/
private def shellOptions : (fuel : Nat) → List Mode → ShellSource → List String →
    Except String (List Mode × ShellSource × List String)
  | 0, modes, source, args => return (modes, source, args)
  | _, modes, source, [] => return (modes, source, [])
  | fuel + 1, modes, source, a :: rest =>
    match a.toList with
    | ['-', '-'] | ['-'] => return (modes, source, rest)
    | sign :: 'o' :: [] =>
      if sign ≠ '-' && sign ≠ '+' then return (modes, source, a :: rest)
      else match rest.head?.map fun name => (name, Mode.named? name) with
        | some (_, some mode) => shellOptions fuel (mode.turn (sign = '-') modes) source (rest.drop 1)
        | some (name, none) => throw s!"{sign}o {name}"
        | none => return (modes, source, rest)
    | sign :: c :: cs =>
      if sign ≠ '-' && sign ≠ '+' then return (modes, source, a :: rest)
      else
        let behind := if cs.isEmpty then rest else String.ofList (sign :: cs) :: rest
        if c = 'c' then shellOptions fuel modes .text behind
        else if c = 's' then shellOptions fuel modes (if source = .text then .text else .input) behind
        else if c = 'l' then shellOptions fuel modes source behind
        else match Mode.lettered? c with
          | some mode => shellOptions fuel (mode.turn (sign = '-') modes) source behind
          | none => throw s!"{sign}{c}"
    | _ => return (modes, source, a :: rest)

/-- A shell that carries out the text of an argument, of a file or of its input. -/
private def shellProgram (e : Evaluator) (name : String) : Program := fun st args => do
  let refused (message : String) : Acting Nat := do
    emitText st.err s!"{name}: 0: {message}\n"
    return 2
  match shellOptions ((String.join args).length + args.length + 1) [] .file args with
  | .error option => refused s!"Illegal option {option}"
  | .ok (modes, source, rest) =>
    match source, rest with
    | .text, [] => refused "-c requires an argument"
    | .text, text :: rest => childShell e (rest.headD name) text (rest.drop 1) modes
    | .input, rest => childShell e name (textOf (← takeInput)) rest modes
    | .file, [] => childShell e name (textOf (← takeInput)) [] modes
    | .file, first :: rest =>
      match ← bytesAt first with
      | .ok bytes => childShell e first (textOf bytes) rest modes
      | .error _ => refused s!"cannot open {first}: No such file"

/-! ### Finding programs -/

/-- The programs that carry out others. -/
private def carriers (launch : Launch) : Fields Program :=
  let signal? (name : String) : Option Nat :=
    let name := name.map Char.toUpper
    let isLong := "SIG".toList.isPrefixOf name.toList
    signalNumber? 1 (if isLong then String.ofList (name.toList.drop 3) else name)
  [("env", env launch), ("printenv", printenv), ("nohup", nohup launch), ("nice", nice launch),
   ("setsid", setsid launch), ("stdbuf", stdbuf launch), ("xargs", xargs launch), ("find", find launch),
   ("awk", awk launch), ("mawk", awk launch), ("timeout", timeout launch signal? signalText)]

/-- The programs that are shells. -/
private def shells : List String := ["sh", "dash", "bash"]

/-- What is found under the path of a program. -/
private inductive FoundProgram where
  | program (name : String)
  | file (bytes : List UInt8)

/-- The directories in which programs lie. -/
private def programDirectories : List String := ["/usr/bin", "/bin"]

/-- The names of the programs that look for programs themselves. -/
private def lookers : List String := ["which"]

private def isProgram (name : String) : Bool :=
  (programs.get? name).isSome || shells.contains name || lookers.contains name
    || ((carriers fun _ => return .ok 0).get? name).isSome

/-- The name of a program by its path. -/
private def programAt? (path : String) : Option String :=
  programDirectories.firstM fun d =>
    ((d ++ "/").toList.isPrefixOf? path.toList).bind fun rest =>
      let name := String.ofList (rest.dropWhile (· = '/'))
      if isProgram name then some name else none

/-- The program that a path leads to. -/
private def foundAt (s : Session) (path : String) : Except FileCause FoundProgram :=
  match programAt? path with
  | some name => return .program name
  | none => do
    match ← s.files.stat s.here path with
    | .directory => throw .permissionDenied
    | .file bytes =>
      let place ← s.files.locate s.here path
      if s.runnable.contains place then return .file bytes else throw .permissionDenied

/-- The paths at which a program of a name may lie. -/
private def candidates (s : Session) (name : String) : List String :=
  if name.toList.contains '/' then [name]
  else
    let path := (s.vars.get? "PATH").getD ""
    if path = "" then []
    else (path.splitOn ":").map fun d => if d = "" then name else d ++ "/" ++ name

/-- All programs of a name, with their paths. -/
private def findAll (s : Session) (name : String) : List (String × FoundProgram) :=
  if name = "" then []
  else (candidates s name).filterMap fun path => ((foundAt s path).toOption).map (path, ·)

/-- The program of a name, with its path. -/
private def findProgram (s : Session) (name : String) : Except FileCause (String × FoundProgram) :=
  match findAll s name with
  | found :: _ => return found
  | [] =>
    if name.toList.contains '/' then (foundAt s name).map (name, ·)
    else throw (if name = "" then .permissionDenied else .notFound)

/-- The shell that the first line of a file asks for; `none` if it asks for something that is not there. -/
private def interpreter? (bytes : List UInt8) : Option String :=
  match (textOf (bytes.takeWhile (· ≠ lineFeed))).toList with
  | '#' :: '!' :: line =>
    let words := (line.splitOnP Char.isWhitespace).filter (!·.isEmpty)
    let path := match words with
      | [e, name] => if e = "/usr/bin/env".toList then "/usr/bin/".toList ++ name else e
      | word :: _ => word
      | [] => []
    (programAt? (String.ofList path)).filter shells.contains
  | _ => some "sh"

/-- Show where programs lie. -/
private def which : Program := fun st args => do
  let s ← get
  let all := args.head? = some "-a"
  let names := if all then args.drop 1 else args
  let found := names.map fun n => (findAll s n).map (·.1)
  emitText st.out (String.join (found.flatMap fun paths =>
    (if all then paths else paths.take 1).map (· ++ "\n")))
  return statusOf (!names.isEmpty && found.all (!·.isEmpty))

/-- Carry out a program given by its words. -/
def launchWith (e : Evaluator) : Launch := fun words => do
  match words with
  | [] => return .ok 0
  | name :: args =>
    let s ← get
    match findProgram s name with
    | .error cause => return .error cause
    | .ok (path, .file bytes) =>
      match interpreter? bytes with
      | some _ => return .ok (← childShell e path (textOf bytes) args [])
      | none => return .error .notFound
    | .ok (_, .program p) =>
      let act : Acting Nat := if shells.contains p then shellProgram e name s.streams args
        else match programs.get? p, (carriers e.launch).get? p with
          | some program, _ | none, some program => program s.streams args
          | none, none => which s.streams args
      modify fun s => { s with command := some p }
      let r ← outcome act
      modify fun t => { t with command := s.command }
      match r with
      | .ok n => return .ok n
      | .error other => throw other

/-! ### Describing commands -/

/-- The commands of the shell that carry out others, or tell about them. -/
private def carryingBuiltins : List String := ["eval", "exec", ".", "command", "type", "wait", "hash"]

private def isBuiltin (name : String) : Bool :=
  (builtins.get? name).isSome || carryingBuiltins.contains name

/-- What a name stands for: in words, and in short. -/
private def descriptionOf (s : Session) (name : String) : Option (String × String) :=
  if reserved.contains name then some (s!"{name} is a shell keyword", name)
  else match s.aliases.get? name with
    | some text => some (s!"{name} is an alias for {text}", s!"alias {name}={singleQuoted text}")
    | none =>
      if (s.functions.get? name).isSome then some (s!"{name} is a shell function", name)
      else if isBuiltin name then
        let kind := if isSpecial name then "special " else ""
        some (s!"{name} is a {kind}shell builtin", name)
      else match findProgram s name with
        | .ok (path, _) => some (s!"{name} is {path}", path)
        | .error _ =>
          if name.toList.contains '/' && s.files.exists? s.here name then some (s!"{name} is {name}", name)
          else none

/-- Show what names stand for. -/
private def describeAll (st : Streams) (inShort : Bool) (names : List String) : Acting Nat := do
  let mut status := 0
  for name in names do
    match descriptionOf (← get) name with
    | some (long, short) => emitText st.out ((if inShort then short else long) ++ "\n")
    | none =>
      unless inShort do emitText st.out (name ++ ": not found\n")
      status := 127
  return status

/-! ### Calls -/

/-- Carry out a program by its name or path. -/
private def callProgram (e : Evaluator) (words : List String) : Acting Nat := do
  let s ← get
  set { s with exported := s.exported.mergeSort fun a b => tableRank a ≤ tableRank b }
  match ← outcome (launchWith e words) with
  | .error (.killed signal) =>
    emitText s.streams.err (signalText signal)
    return 128 + signal
  | .error other => throw other
  | .ok (.ok status) => return status
  | .ok (.error cause) =>
    let name := words.headD ""
    let isDenied := cause = .permissionDenied
    complain (s!"{name}: " ++ if isDenied then cause.description else "not found")
    return if isDenied && name ≠ "" then 126 else 127

/-- Carry out the body of a function. -/
private def callFunction (e : Evaluator) (tested : Bool) (body : Script) (args : List String) :
    Acting Nat := do
  let s ← get
  set { s with arguments := args, functionDepth := s.functionDepth + 1, loopDepth := 0, locals := [] }
  let r ← outcome (e.run tested body)
  modify fun t =>
    { t with
      arguments := s.arguments, functionDepth := s.functionDepth, loopDepth := s.loopDepth
      locals := s.locals
      vars := t.locals.foldl (fun vars (name, value) =>
        match value with
        | some v => vars.set name v
        | none => vars.filter (·.1 ≠ name)) t.vars }
  match r with
  | .ok n | .error (.returned n) => return n
  | .error other => throw other

/-- Carry out the text of a file in this session. -/
private def source (e : Evaluator) (tested : Bool) (args : List String) : Acting Nat := do
  match args with
  | [] => return 0
  | name :: _ =>
    let s ← get
    let isPath := name.toList.contains '/'
    let path := if isPath then some name
      else (candidates s name).find? fun p => s.files.isFile s.here p
    match path with
    | none => abort s!"{name}: not found"
    | some path =>
      match ← bytesAt path with
      | .error _ => abort s!"cannot open {path}: No such file"
      | .ok bytes =>
        modify fun s => { s with command := some path }
        match ← outcome (runText e tested (textOf bytes)) with
        | .ok n | .error (.returned n) => return n
        | .error other => throw other

/-- Look for programs, which the shell would remember. -/
private def hash : Program := fun _ args => do
  let mut complete := true
  for name in args.filter (· ≠ "-r") do
    if (descriptionOf (← get) name).isNone then
      complain s!"{name}: not found"
      complete := false
  return statusOf complete

/-- Leave the shell for a program. -/
private def leaveFor (e : Evaluator) (words : List String) : Acting Nat := do
  match words with
  | [] => return 0
  | name :: _ =>
    if (findProgram (← get) name).toBool then modify fun s => { s with traps := [] }
    throw (.exited (← callProgram e words))

/-- The commands of the shell that carry out others, or tell about them. -/
private def carrying? (e : Evaluator) (tested : Bool) (name : String) : Option Program :=
  match name with
  | "eval" => some fun _ args => runText e tested (" ".intercalate args)
  | "exec" => some fun _ args => leaveFor e (if args.head? = some "--" then args.drop 1 else args)
  | "." => some fun _ args => source e tested args
  | "type" => some fun st args => describeAll st false args
  | "wait" => some (wait signalText)
  | "hash" => some hash
  | _ => none

/-- Carry out a command of the shell. Unless it is `contained`, a special one that is refused ends the
session. -/
private def callBuiltin (contained : Bool) (name : String) (p : Program) (args : List String) :
    Acting Nat := do
  let s ← get
  set { s with command := some name }
  let r ← outcome (p s.streams args)
  modify fun t => { t with command := s.command }
  match r with
  | .ok n => return n
  | .error .refused => if contained || !isSpecial name then return 2 else throw .refused
  | .error other => throw other

/-- Carry out a command that is no function. -/
private def callOther (e : Evaluator) (tested contained : Bool) (words : List String) : Acting Nat := do
  match words with
  | [] => return 0
  | name :: args =>
    match builtins.get? name, carrying? e tested name with
    | some p, _ | none, some p => callBuiltin contained name p args
    | none, none => callProgram e words

/-- Carry out a command other than a function, or show what it stands for. -/
private def callDirectly (e : Evaluator) (tested : Bool) : (fuel : Nat) → List String → Acting Nat
  | 0, words => callOther e tested true words
  | fuel + 1, words => do
    let st := (← get).streams
    match words with
    | "-p" :: rest => callDirectly e tested fuel rest
    | "--" :: rest => callDirectly e tested fuel rest
    | "-v" :: rest => describeAll st true (rest.take 1)
    | "-V" :: rest => describeAll st false (rest.take 1)
    | "command" :: rest => callDirectly e tested fuel rest
    | words => callOther e tested true words

/-- Carry out a command given by its words: a function, a command of the shell, or a program. -/
def callWith (e : Evaluator) (tested : Bool) (words : List String) : Acting Nat := do
  match words with
  | [] => return 0
  | name :: args =>
    match (← get).functions.get? name with
    | some body => callFunction e tested body args
    | none =>
      if name = "command" then callDirectly e tested args.length args
      else callOther e tested false words

end StepFlow.Shell
