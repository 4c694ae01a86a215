import StepFlow.Shell.Call

/-!
# Carrying out scripts

Simple commands, pipelines, conditions and loops, each giving an exit status.

Each level of nesting takes one from the supply of an evaluator, and a session whose supply runs out
counts as one that never ends.

## Main definitions

* `runWith` — one script, given what carries out the scripts inside it
* `evaluator`
-/

namespace StepFlow.Shell

/-! ### Simple commands -/

/-- Carry out assignments. -/
def assignAll (e : Evaluator) : List (String × Word) → Acting Unit
  | [] => return
  | (name, w) :: rest => do
    setVariable name (← expandValue (substitution e) w)
    assignAll e rest

/-- Show a command before it is carried out. -/
private def trace (assignments : List (String × Word)) (words : List String) : Acting Unit := do
  let s ← get
  if s.keeps .traces then
    let set := assignments.map fun a => a.1 ++ "=" ++ (s.vars.get? a.1).getD ""
    let mark := (s.vars.get? "PS4").getD ""
    emitText s.streams.err (mark ++ " ".intercalate (set ++ words) ++ "\n")

/-- Carry out an activity with assignments that hold for it alone. -/
private def withAssignments (e : Evaluator) (assignments : List (String × Word)) (act : Acting Nat) :
    Acting Nat := do
  let s ← get
  assignAll e assignments
  let names := assignments.map (·.1)
  modify fun t => { t with exported := t.exported ++ names.filter fun n => !t.exported.contains n }
  let r ← outcome act
  modify fun t =>
    let kept := t.vars.filter fun v => !names.contains v.1
    { t with
      vars := kept ++ s.vars.filter fun v => names.contains v.1
      exported := t.exported.filter fun n => !names.contains n || s.exported.contains n }
  match r with
  | .ok n => return n
  | .error other => throw other

/-- Carry out a simple command. -/
def simple (e : Evaluator) (tested : Bool) (line : Nat) (assignments : List (String × Word)) (words : List Word)
    (rs : List Redirect) : Acting Nat := do
  modify fun s => { s with line, outputStatus := none }
  let args ← expandWords (substitution e) words
  match args with
  | [] =>
    withRedirects e rs (return 2) do
      assignAll e assignments
      trace assignments []
      return ((← get).outputStatus).getD 0
  | name :: rest =>
    if name = "exec" && rest.isEmpty then
      match ← redirected e rs (← get).streams with
      | some st =>
        modify fun s => { s with streams := st }
        return 0
      | none => throw .refused
    else
      let failed : Acting Nat := if isSpecial name then throw .refused else return 2
      withRedirects e rs failed do
        if isSpecial name then
          assignAll e assignments
          trace assignments args
          e.call tested args
        else if assignments.isEmpty then
          trace [] args
          e.call tested args
        else withAssignments e assignments do
          trace assignments args
          e.call tested args

/-! ### Compound commands -/

/-- Carry out the commands that are kept for signals which have come. -/
private def answerSignals (e : Evaluator) : List String → Acting Unit
  | [] => return
  | name :: rest => do
    if let some command := (← get).traps.get? name then
      let _ ← runText e false command
    answerSignals e rest

/-- What follows a command: signals are answered, and a failure that nothing looks at ends a session
that stops on errors. -/
private def settled (e : Evaluator) (tested : Bool) (status : Nat) : Acting Nat := do
  let s ← get
  set { s with status, pending := [] }
  unless s.pending.isEmpty do
    answerSignals e s.pending
    modify fun s => { s with status }
  if status ≠ 0 && !tested && s.keeps .stopsOnError then throw (.exited status)
  return status

/-- Begin a command and go on without waiting for it. Files are changed at once, but what it writes to
the outputs comes in its time. -/
private def start (e : Evaluator) (script : Script) : Acting Nat := do
  let s ← get
  let number := (max s.lastJob processNumber) + 1
  let input ← newFeed ⟨[], none⟩
  modify fun t => { t with job := some number, lastJob := 0, streams := { s.streams with input } }
  let r ← outcome (subshell e (e.run false script))
  let finish := some (← get).elapsed
  let job : Job ← match r with
    | .ok status => pure { number, finish, status }
    | .error (.killed n) => pure { number, finish, status := 128 + n, signal := some n }
    | .error .timedOut => pure { number, finish := none, status := 0 }
    | .error other => throw other
  modify fun t =>
    { t with
      job := s.job, streams := s.streams, elapsed := s.elapsed, lastJob := number
      jobs := s.jobs ++ [job] }
  return 0

/-- The parts of a pipeline, each with the output of the one before it as its input. -/
private def runPipeline (e : Evaluator) (tested : Bool) : (input : Nat) → List Script → Acting Nat
  | _, [] => return 0
  | input, [s] => do
    withStreams { (← get).streams with input } (subshell e (e.run tested s))
  | input, s :: rest => do
    let (_, bytes) ← captured do
      withStreams { (← get).streams with input } (subshell e (e.run tested s))
    runPipeline e tested (← newFeed ⟨bytes, none⟩) rest

/-- One round of a loop: whether the loop goes on, and its status. -/
private def roundOf (act : Acting Nat) : Acting (Bool × Nat) := do
  modify fun s => { s with loopDepth := s.loopDepth + 1 }
  let r ← outcome act
  modify fun s => { s with loopDepth := s.loopDepth - 1 }
  match r with
  | .ok n => return (true, n)
  | .error (.left n) => if n ≤ 1 then return (false, 0) else throw (.left (n - 1))
  | .error (.skipped n) => if n ≤ 1 then return (true, 0) else throw (.skipped (n - 1))
  | .error other => throw other

/-- A loop that has gone through this many rounds is taken to go on for ever. -/
def maxRounds : Nat := 100000

/-- A loop with a condition; `last` is the status of the round before. -/
private def runLoop (e : Evaluator) (tested untilTrue : Bool) (condition body : Script) :
    (rounds last : Nat) → Acting Nat
  | 0, _ => throw .timedOut
  | rounds + 1, last => do
    let (goesOn, n) ← roundOf (e.run true condition)
    if !goesOn || (n = 0) = untilTrue then return last
    else
      let (goesOn, n) ← roundOf (e.run tested body)
      if goesOn then runLoop e tested untilTrue condition body rounds n else return n

/-- A loop through values. -/
private def runThrough (e : Evaluator) (tested : Bool) (name : String) (body : Script) :
    (last : Nat) → List String → Acting Nat
  | last, [] => return last
  | _, v :: rest => do
    setVariable name v
    let (goesOn, n) ← roundOf (e.run tested body)
    if goesOn then runThrough e tested name body n rest else return n

/-- One of several patterns accepts the value. -/
private def matchesAny (e : Evaluator) (value : String) : List Word → Acting Bool
  | [] => return false
  | w :: rest => do
    let p ← matchPattern (substitution e) w
    if p.accepts value.toList then return true else matchesAny e value rest

/-- Carry out the first case that accepts the value. -/
private def runCases (e : Evaluator) (tested : Bool) (value : String) :
    List (List Word × Script) → Acting Nat
  | [] => return 0
  | (patterns, body) :: rest => do
    if ← matchesAny e value patterns then e.run tested body else runCases e tested value rest

/-- The status of a compound command becomes that of the last command. -/
private def noted (act : Acting Nat) : Acting Nat := do
  let status ← act
  modify fun s => { s with status }
  return status

/-- Carry out a script, given what carries out the scripts inside it. -/
private def carryOut (e : Evaluator) (tested : Bool) : Script → Acting Nat
  | .simple line assignments words rs => do settled e tested (← simple e tested line assignments words rs)
  | .background s => do settled e true (← start e s)
  | .pipeline negated [s] => do
    let n ← e.run (tested || negated) s
    noted (return if negated then (if n = 0 then 1 else 0) else n)
  | .pipeline negated parts => do
    let n ← runPipeline e (tested || negated) (← get).streams.input parts
    if negated then settled e true (if n = 0 then 1 else 0) else settled e tested n
  | .both first second => do
    let n ← e.run true first
    if n = 0 then e.run tested second else return n
  | .either first second => do
    let n ← e.run true first
    if n = 0 then return 0 else e.run tested second
  | .sequence parts => runAll e tested 0 parts
  | .subshell s rs => do
    settled e tested (← withRedirects e rs (return 2) (subshell e (e.run tested s)))
  | .group s rs => withRedirects e rs (settled e tested 2) (e.run tested s)
  | .branch condition thenPart elsePart => do
    let n ← e.run true condition
    noted (if n = 0 then e.run tested thenPart else e.run tested elsePart)
  | .loop untilTrue condition body => noted (runLoop e tested untilTrue condition body maxRounds 0)
  | .forEach name words body => do
    noted (runThrough e tested name body 0 (← expandWords (substitution e) words))
  | .select w cases => do
    noted (runCases e tested (← expandText (substitution e) w) cases)
  | .define name body => noted do
    modify fun s => { s with functions := s.functions.set name body }
    return 0

/-- Carry out a script, given what carries out the scripts inside it, unless scripts are only read. -/
def runWith (e : Evaluator) (tested : Bool) (s : Script) : Acting Nat := do
  if (← get).keeps .onlyReads then return 0 else carryOut e tested s

/-- The evaluator with a supply of nesting. -/
def evaluator : (fuel : Nat) → Evaluator
  | 0 => ⟨fun _ _ => throw .timedOut, fun _ _ => throw .timedOut, fun _ => throw .timedOut⟩
  | fuel + 1 =>
    ⟨fun tested s => runWith (evaluator fuel) tested s,
      fun tested words => callWith (evaluator fuel) tested words,
      fun words => launchWith (evaluator fuel) words⟩

end StepFlow.Shell
