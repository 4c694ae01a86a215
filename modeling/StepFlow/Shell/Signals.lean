import StepFlow.Shell.Expansion

/-!
# Signals and jobs

Signals end a process, are ignored, or are answered by a command that was kept for them. The end of a
session counts as one of them. Jobs are commands that were begun while others went on; they can be
waited for and ended.

## Main definitions

* `signalName?`, `signalNumber?` — signals by number and by name
* `kill`, `trap` — sending signals and answering them
* `wait`, `finishJobs` — the end of jobs
-/

namespace StepFlow.Shell

/-! ### Names -/

/-- The names of the signals in the order of their numbers, from 0, the end of a session, on. -/
def signalNames : List String :=
  ["EXIT", "HUP", "INT", "QUIT", "ILL", "TRAP", "ABRT", "BUS", "FPE", "KILL", "USR1", "SEGV", "USR2",
   "PIPE", "ALRM", "TERM", "16", "CHLD", "CONT", "STOP", "TSTP", "TTIN", "TTOU", "URG", "XCPU", "XFSZ",
   "VTALRM", "PROF", "WINCH", "IO", "PWR", "SYS", "32", "33", "RTMIN"]
    ++ ((List.range 15).map fun i => s!"RTMIN+{i + 1}")
    ++ ((List.range 14).map fun i => s!"RTMAX-{14 - i}") ++ ["RTMAX"]

def signalName? (number : Nat) : Option String := signalNames[number]?

/-- The number of a signal given by number or by name; names from `first` on count. -/
def signalNumber? (first : Nat) (s : String) : Option Nat :=
  match natOf? s with
  | some n => if n < signalNames.length then some n else none
  | none =>
    let name := s.map Char.toUpper
    (signalNames.idxOf? name).filter (first ≤ ·)

/-- A number given by an argument. -/
def numberArgument (s : String) : Acting Nat :=
  match natOf? s with
  | some n => return n
  | none => abort s!"Illegal number: {s}"

/-! ### Sending -/

/-- Signals that do nothing unless they are answered. -/
private def harmless : List String := ["CHLD", "CONT", "URG", "WINCH"]

/-- Signals that stop a process for good, as nothing goes on with it. -/
private def stopping : List String := ["STOP", "TSTP", "TTIN", "TTOU"]

/-- A signal comes to the shell. -/
private def receive (number : Nat) : Acting Unit := do
  let s ← get
  let name := (signalName? number).getD ""
  match if name = "KILL" || name = "STOP" then none else s.traps.get? name with
  | some command => unless command = "" do set { s with pending := s.pending ++ [name] }
  | none =>
    if stopping.contains name then throw .timedOut
    else unless number = 0 || harmless.contains name do throw (.killed number)

/-- A signal ends a job, unless that has ended before. -/
private def Job.hit (number now : Nat) (j : Job) : Job :=
  let isHarmless := number = 0 || harmless.contains ((signalName? number).getD "")
  if isHarmless || j.finish.any (· ≤ now) then j
  else { j with finish := some now, status := 128 + number, signal := some number }

/-- Send a signal to a process; whether there is one. -/
private def sendSignal (signal : Nat) (target : String) : Acting Bool := do
  let isGroup := target.toList.head? = some '-'
  let number ← numberArgument (if isGroup then String.ofList (target.toList.drop 1) else target)
  let s ← get
  if number = processNumber || number = 0 then
    receive signal
    return true
  else match s.jobs.find? (·.number = number) with
    | some j =>
      let hit := j.hit signal s.elapsed
      set { s with
        jobs := s.jobs.map fun (k : Job) => if k.number = number then hit else k
        later := if hit = j then s.later
          else s.later.filter fun l => l.job ≠ number || l.time < s.elapsed }
      return true
    | none => return false

private def killUsage {α : Type} : Acting α :=
  abort ("Usage: kill [-s sigspec | -signum | -sigspec] [pid | job]... or\n" ++ "kill -l [exitstatus]")

/-- Show the names of signals. -/
private def listSignals (st : Streams) (args : List String) : Acting Nat := do
  match args with
  | [] =>
    emitText st.out ("0\n" ++ String.join ((signalNames.drop 1).map (· ++ "\n")))
    return 0
  | a :: _ =>
    let n ← numberArgument a
    match if n = 0 || n = 128 then none else signalName? (if 128 < n then n - 128 else n) with
    | some name =>
      emitText st.out (name ++ "\n")
      return 0
    | none => abort s!"invalid signal number or exit status: {a}"

/-- Send a signal to processes, or show the names of signals. -/
def kill : Program := fun st args => do
  let sendAll (signal : Nat) (targets : List String) : Acting Nat := do
    if targets.isEmpty then killUsage
    let mut complete := true
    for target in targets do
      unless ← sendSignal signal target do
        complain "No such process\n"
        complete := false
    return statusOf complete
  match args with
  | [] => killUsage
  | a :: rest =>
    match a.toList with
    | '-' :: text =>
      match signalNumber? 1 (String.ofList text), text with
      | some n, _ => sendAll n rest
      | none, ['-'] => sendAll 15 rest
      | none, 'l' :: _ => listSignals st rest
      | none, 's' :: attached =>
        let (name, targets) :=
          if attached.isEmpty then (rest.head?, rest.drop 1) else (some (String.ofList attached), rest)
        match name with
        | none => abort "No arg for -s option"
        | some name =>
          match signalNumber? 1 name with
          | some n => sendAll n targets
          | none => abort s!"invalid signal number or name: {name}"
      | none, c :: _ => abort s!"Illegal option -{c}"
      | none, [] => killUsage
    | _ => sendAll 15 args

/-! ### Answering -/

/-- A text between single quotes. -/
def singleQuoted (s : String) : String :=
  "'" ++ String.ofList (s.toList.flatMap fun c => if c = '\'' then "'\"'\"'".toList else [c]) ++ "'"

/-- Keep a command for signals, ignore them, or leave them to what they do by themselves. -/
def trap : Program := fun st args => do
  let args ← match args with
    | "--" :: rest => pure rest
    | a :: _ =>
      match a.toList with
      | '-' :: c :: _ => abort s!"Illegal option -{c}"
      | _ => pure args
    | [] => pure []
  match args with
  | [] =>
    let s ← get
    for name in signalNames do
      if let some command := s.traps.get? name then
        emitText st.out s!"trap -- {singleQuoted command} {name}\n"
    return 0
  | first :: others =>
    let isName := others.isEmpty || (natOf? first).any (· < signalNames.length)
    let command := if isName || first = "-" then none else some first
    for name in (if isName then args else others) do
      match signalNumber? 0 name >>= signalName? with
      | none =>
        emitText st.err s!"trap: {name}: bad trap\n"
        return 1
      | some name =>
        modify fun s => { s with
          traps := match command with
            | some command => s.traps.set name command
            | none => s.traps.filter (·.1 ≠ name) }
    return 0

/-! ### Jobs -/

/-- Wait until a job has ended; its exit status. -/
private def awaitJob (j : Job) : Acting Nat := do
  match j.finish with
  | none => throw .timedOut
  | some time =>
    passUntil time
    return j.status

/-- Wait for jobs; without arguments for all of them. `describe` gives what is said of a signal. -/
def wait (describe : Nat → String) : Program := fun st args => do
  if args.isEmpty then
    for j in (← get).jobs do
      let _ ← awaitJob j
    modify fun s => { s with jobs := [] }
    return 0
  let mut status := 0
  for a in args do
    let number ← numberArgument a
    match (← get).jobs.find? (·.number = number) with
    | some j =>
      status ← awaitJob j
      modify fun s => { s with jobs := s.jobs.filter (·.number ≠ number) }
      if let some signal := j.signal then emitText st.err (describe signal)
    | none => status := 127
  return status

/-- Wait until all that was begun has ended and has written what it writes. -/
def finishJobs : Acting Unit := do
  let s ← get
  let times := s.jobs.filterMap (·.finish) ++ s.later.map (·.time)
  unless times.isEmpty do passUntil (times.foldl max s.elapsed)
  if s.jobs.any (·.finish.isNone) then throw .timedOut

end StepFlow.Shell
