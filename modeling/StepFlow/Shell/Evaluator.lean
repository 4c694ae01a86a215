import StepFlow.Shell.Builtins

/-!
# What carries out scripts

An `Evaluator` carries out scripts and commands. This module has what is built on one: whole texts,
whole sessions, sessions within sessions, the output of commands, and redirections.

A command that is `tested`, as the condition of a branch is, may fail without ending a session that
stops on errors.

## Main definitions

* `Evaluator`
* `runText` — a whole script
* `runShell` — a whole session, with what is to be done at its end
* `subshell`, `childShell`, `substitution`
* `withRedirects`
-/

namespace StepFlow.Shell

/-- What carries out scripts and commands. -/
structure Evaluator where
  /-- Carry out a script. -/
  run : (tested : Bool) → Script → Acting Nat
  /-- Carry out a command given by its words. -/
  call : (tested : Bool) → List String → Acting Nat
  /-- Carry out a program given by its words. -/
  launch : Launch

/-! ### Whole scripts -/

/-- Carry out scripts one after the other; the status is that of the last one. -/
def runAll (e : Evaluator) (tested : Bool) : (last : Nat) → List Script → Acting Nat
  | last, [] => return last
  | _, s :: rest => do
    let status ← e.run tested s
    runAll e tested status rest

/-- Carry out what remains of a text, line by line; the status is that of the last one. -/
private def runLines (e : Evaluator) (tested : Bool) : (fuel last : Nat) → Source → Acting Nat
  | 0, last, _ => return last
  | fuel + 1, last, source => do
    match Script.next.run { source with aliases := (← get).aliases } with
    | .ok (some s, rest) => runLines e tested fuel (← e.run tested s) rest
    | .ok (none, _) => return last
    | .error m =>
      modify fun s => { s with line := m.line }
      abort m.message

/-- Carry out a text. A mistake in it is found after the lines before it have been carried out. -/
def runText (e : Evaluator) (tested : Bool) (text : String) : Acting Nat :=
  runLines e tested (text.length + 1) 0 { rest := text.toList }

/-- Carry out an activity as a whole session: its exit status, after what is kept for its end has been
done. -/
def concluded (e : Evaluator) (act : Acting Nat) : Acting Nat := do
  let status ← match ← outcome act with
    | .ok n | .error (.exited n) | .error (.returned n) => pure n
    | .error (.left _) | .error (.skipped _) => pure 0
    | .error .refused => pure 2
    | .error other => throw other
  match (← get).traps.get? "EXIT" with
  | none => return status
  | some command =>
    modify fun s =>
      { s with traps := s.traps.filter (·.1 ≠ "EXIT"), status, command := none }
    match ← outcome (runText e false command) with
    | .error (.exited n) => return n
    | .error .timedOut => throw .timedOut
    | _ => return status

/-- A whole session that carries out a text. It lasts until all its jobs have ended. -/
def runShell (e : Evaluator) (text : String) : Acting Nat := do
  let r ← outcome (concluded e (runText e false text))
  finishJobs
  match r with
  | .ok n => return n
  | .error ending => throw ending

/-! ### Sessions within sessions -/

/-- Carry out an activity in a copy of the session: only files, outputs and the input that it read are
changed for what follows. -/
def subshell (e : Evaluator) (act : Acting Nat) : Acting Nat := do
  let s ← get
  set { s with traps := s.traps.filter (·.2 = ""), jobs := [] }
  let r ← outcome (concluded e act)
  modify fun t =>
    { s with
      files := t.files, changes := t.changes, feeds := t.feeds, stdout := t.stdout,
      stderr := t.stderr, pipes := t.pipes, elapsed := t.elapsed, line := t.line,
      runnable := t.runnable, later := t.later }
  match r with
  | .ok n => return n
  | .error e => throw e

/-- What the shell says of a process that a signal ended. -/
def signalText : Nat → String
  | 1 => "Hangup\n"
  | 3 => "Quit\n"
  | 4 => "Illegal instruction\n"
  | 5 => "Trace/breakpoint trap\n"
  | 6 => "Aborted\n"
  | 7 => "Bus error\n"
  | 8 => "Floating point exception\n"
  | 9 => "Killed\n"
  | 10 => "User defined signal 1\n"
  | 11 => "Segmentation fault\n"
  | 12 => "User defined signal 2\n"
  | 14 => "Alarm clock\n"
  | 15 => "Terminated\n"
  | _ => ""

/-- The search path of a shell that is given none. -/
def standardPath : String := "/usr/local/sbin:/usr/local/bin:/usr/sbin:/usr/bin:/sbin:/bin"

/-- The variables that every shell has, beside those that it is given. -/
def withOwnVariables (vars : Fields String) : Fields String :=
  let own := [("OPTIND", "1"), ("PATH", standardPath), ("PPID", toString (processNumber - 1)),
    ("PS1", "# "), ("PS2", "> "), ("PS4", "+ ")]
  (own.filter fun (n, _) => (vars.get? n).isNone).foldl (fun vs (n, v) => vs.set n v)
    (vars.set "IFS" " \t\n")

/-- A shell of its own that sees the exported variables only. -/
def childShell (e : Evaluator) (name text : String) (arguments : List String) (modes : List Mode) :
    Acting Nat := do
  subshell e do
    modify fun s =>
      { s with
        name, arguments, modes, functions := [], constants := [], aliases := [], line := 1
        functionDepth := 0, loopDepth := 0, command := none, optionAt := none
        vars := withOwnVariables (s.vars.filter fun v => s.exported.contains v.1) }
    runText e false text

/-- The output of a command. -/
def substitution (e : Evaluator) : Substitution := fun command => do
  let (status, bytes) ← captured (subshell e (runText e false (String.ofList command)))
  modify fun s => { s with outputStatus := some status }
  return bytes

/-! ### Redirections -/

/-- The reason for a refusal as the shell words it. -/
private def refusal (creating : Bool) : FileCause → String
  | .notFound | .notDirectory => if creating then "Directory nonexistent" else "No such file"
  | cause => cause.description

/-- The streams after redirections; `none` if one of them failed. -/
def redirected (e : Evaluator) : List Redirect → Streams → Acting (Option Streams)
  | [], st => return some st
  | r :: rest, st => do
    let target ← expandText (substitution e) r.target
    match r.kind with
    | .inline => redirected e rest (st.lead r.descriptor (.input (← newFeed ⟨bytesOf target, none⟩)))
    | .input =>
      match ← bytesAt target with
      | .ok bytes =>
        let size := if target = nullFile then none else some bytes.length
        redirected e rest (st.lead r.descriptor (.input (← newFeed ⟨bytes, size⟩)))
      | .error cause =>
        complain s!"cannot open {target}: {refusal false cause}"
        return none
    | .output | .overwrite | .append =>
      let s ← get
      if r.kind = .output && s.keeps .keepsFiles && s.files.isFile s.here target then
        complain s!"cannot create {target}: {FileCause.alreadyExists.description}"
        return none
      match ← fileSink target (r.kind = .append) with
      | .ok sink => redirected e rest (st.lead r.descriptor (.output sink))
      | .error cause =>
        complain s!"cannot create {target}: {refusal true cause}"
        return none
    | .duplicate =>
      if target = "-" then redirected e rest (st.close r.descriptor)
      else match natOf? target with
        | some n =>
          match st.endpoint? n with
          | some endpoint => redirected e rest (st.lead r.descriptor endpoint)
          | none =>
            complain s!"{n}: Bad file descriptor"
            return none
        | none => abort "Syntax error: Bad fd number"

/-- Carry out an activity with redirections. -/
def withRedirects (e : Evaluator) (rs : List Redirect) (failed act : Acting Nat) : Acting Nat := do
  match ← redirected e rs (← get).streams with
  | some st => withStreams st act
  | none => failed

end StepFlow.Shell
