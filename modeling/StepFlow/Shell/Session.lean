import StepFlow.Fields
import StepFlow.Files.Tree
import StepFlow.Shell.Modes
import StepFlow.Shell.Script.Read
import StepFlow.Text.Utf8

/-!
# Shell sessions

The state that shell commands work on: variables, files, what was written to the two outputs, and the
time that has passed. Commands take no time except when they sleep; a session may have a limit.

What is written goes into buffers, so a pipeline is a sequence: each command reads all that the one
before it wrote.

## Main definitions

* `Session`, `Ending`, `Acting`
* `Job`, `Late` — commands that go on while others are carried out
* `Streams`, `emit` — where output goes
* `Session.complain` — messages of the shell itself
* `pass` — time
-/

namespace StepFlow.Shell

/-! ### Streams -/

/-- Where output goes. -/
inductive Sink where
  | stdout
  | stderr
  /-- To the next command of a pipeline. -/
  | pipe (number : Nat)
  | file (place : Place)
  | nowhere
  deriving DecidableEq, Repr, Inhabited

/-- Bytes that can be read. -/
structure Feed where
  bytes : List UInt8
  /-- The size of the file that they come from, if they come from one. -/
  size : Option Nat := none
  deriving DecidableEq, Repr, Inhabited

/-- What a descriptor leads to. -/
inductive Endpoint where
  /-- A feed of the session, by its number. -/
  | input (feed : Nat)
  | output (sink : Sink)
  deriving DecidableEq, Repr, Inhabited

/-- Where a command reads and writes. -/
structure Streams where
  /-- The number of the feed. -/
  input : Nat := 0
  out : Sink := .stdout
  err : Sink := .stderr
  /-- Further open descriptors. -/
  others : List (Nat × Endpoint) := []
  deriving DecidableEq, Repr, Inhabited

namespace Streams

/-- What a descriptor leads to, if it is open. -/
def endpoint? (s : Streams) (descriptor : Nat) : Option Endpoint :=
  match descriptor with
  | 0 => some (.input s.input)
  | 1 => some (.output s.out)
  | 2 => some (.output s.err)
  | n => s.others.lookup n

/-- Let a descriptor lead elsewhere. -/
def lead (s : Streams) (descriptor : Nat) (endpoint : Endpoint) : Streams :=
  match descriptor, endpoint with
  | 0, .input feed => { s with input := feed }
  | 1, .output sink => { s with out := sink }
  | 2, .output sink => { s with err := sink }
  | n, endpoint => { s with others := (n, endpoint) :: s.others }

/-- Let a descriptor lead nowhere. -/
def close (s : Streams) (descriptor : Nat) : Streams :=
  match descriptor with
  | 1 => { s with out := .nowhere }
  | 2 => { s with err := .nowhere }
  | n => { s with others := s.others.filter (·.1 ≠ n) }

end Streams

/-! ### Sessions -/

/-- A command that was begun while others went on. -/
structure Job where
  /-- The number of its process. -/
  number : Nat
  /-- When it ends; `none` if it never does. -/
  finish : Option Nat
  status : Nat
  /-- The signal that ended it. -/
  signal : Option Nat := none
  deriving DecidableEq, Repr, Inhabited

/-- Output of a job that is due at a time. -/
structure Late where
  time : Nat
  job : Nat
  sink : Sink
  bytes : List UInt8
  deriving DecidableEq, Repr, Inhabited

structure Session where
  vars : Fields String
  /-- The variables that programs see. -/
  exported : List String := []
  /-- The variables that keep their values. -/
  constants : List String := []
  /-- What the shell is called in its messages. -/
  name : String := "/bin/sh"
  arguments : List String := []
  /-- The variables that the function being carried out has for itself, with their values outside. -/
  locals : List (String × Option String) := []
  /-- How many functions and loops are being carried out. -/
  functionDepth : Nat := 0
  loopDepth : Nat := 0
  functions : Fields Script := []
  aliases : Fields String := []
  modes : List Mode := []
  /-- The command of the shell that is being carried out, as messages name it. -/
  command : Option String := none
  /-- The commands to carry out at the end and on signals, by the names of these; an empty one ignores
  the signal. -/
  traps : Fields String := []
  /-- The names of the signals that have come and are not answered yet. -/
  pending : List String := []
  /-- The permissions that new files do not get. -/
  mask : Nat := 18
  /-- Where the last look at options stopped within an argument: the number of the next argument, and
  the characters passed over in the one before. -/
  optionAt : Option (Nat × Nat) := none
  jobs : List Job := []
  /-- The number of the last job that was begun, or 0. -/
  lastJob : Nat := 0
  /-- The job being carried out, whose output is kept until it is due. -/
  job : Option Nat := none
  later : List Late := []
  files : FileTree
  /-- Changes of files so far. -/
  changes : List Change := []
  /-- The files that may be carried out as programs. -/
  runnable : List Place := []
  here : Place
  streams : Streams := {}
  /-- What can be read; the first feed is the input that the session began with. -/
  feeds : List Feed := [⟨[], none⟩]
  stdout : List UInt8 := []
  stderr : List UInt8 := []
  pipes : List (List UInt8) := []
  /-- The exit status of the last command. -/
  status : Nat := 0
  /-- The exit status of the last command whose output was taken within the current one. -/
  outputStatus : Option Nat := none
  /-- The line of the script that is carried out. -/
  line : Nat := 1
  /-- Nanoseconds that have passed. -/
  elapsed : Nat := 0
  limit : Option Nat := none
  deriving Inhabited

/-- How a session or a part of it ends early. -/
inductive Ending where
  | exited (code : Nat)
  /-- A command of the shell is refused, which ends the session unless the command is an ordinary one. -/
  | refused
  | killed (signal : Nat)
  | timedOut
  /-- Out of a function. -/
  | returned (code : Nat)
  /-- Out of a number of loops. -/
  | left (loops : Nat)
  /-- On to the next round of a loop. -/
  | skipped (loops : Nat)
  deriving DecidableEq, Repr, Inhabited

/-- An activity within a session. -/
abbrev Acting := ExceptT Ending (StateM Session)

/-- The outcome of an activity as a value, so that its ending does not end the whole. -/
def outcome {α : Type} (act : Acting α) : Acting (Except Ending α) :=
  fun s => let (r, s) := act s; (.ok r, s)

/-- The process number of the shell. -/
def processNumber : Nat := 4242

namespace Session

/-- Whether a mode is on. -/
def keeps (s : Session) (m : Mode) : Bool := s.modes.contains m

end Session

def bytesOf (s : String) : List UInt8 := Text.Utf8.encode s.toList

def textOf (bs : List UInt8) : String := String.ofList (Text.Utf8.decodeLossy bs)

/-! ### Files -/

def change (c : Change) : Acting Unit :=
  modify fun s => { s with files := s.files.apply c, changes := s.changes ++ [c] }

/-- The file that gives nothing and keeps nothing. -/
def nullFile : String := "/dev/null"

def bytesAt (path : String) : Acting (Except FileCause (List UInt8)) := do
  let s ← get
  return if path = nullFile then .ok [] else s.files.read s.here path

/-- A sink that leads to a file, which is made empty unless its bytes are to be kept. -/
def fileSink (path : String) (keep : Bool) : Acting (Except FileCause Sink) := do
  if path = nullFile then return .ok .nowhere
  let s ← get
  match s.files.writable s.here path with
  | .error e => return .error e
  | .ok place =>
    match s.files.get? place with
    | some (.file _) => unless keep do change (.write place [])
    | _ => change (.write place [])
    return .ok (.file place)

/-! ### Output -/

/-- Add bytes to one of several buffers. -/
private def addTo (bytes : List UInt8) : Nat → List (List UInt8) → List (List UInt8)
  | _, [] => []
  | 0, b :: rest => (b ++ bytes) :: rest
  | n + 1, b :: rest => b :: addTo bytes n rest

/-- Write bytes to a sink at once. -/
private def emitNow (sink : Sink) (bytes : List UInt8) : Acting Unit := do
  match sink with
  | .stdout => modify fun s => { s with stdout := s.stdout ++ bytes }
  | .stderr => modify fun s => { s with stderr := s.stderr ++ bytes }
  | .pipe n => modify fun s => { s with pipes := addTo bytes n s.pipes }
  | .nowhere => return
  | .file place =>
    match (← get).files.get? place with
    | some (.file old) => change (.write place (old ++ bytes))
    | _ => return

/-- Write bytes to a sink; what a job writes to the two outputs is kept until it is due. -/
def emit (sink : Sink) (bytes : List UInt8) : Acting Unit := do
  match (← get).job with
  | some job =>
    if sink = .stdout || sink = .stderr then
      modify fun s => { s with later := s.later ++ [⟨s.elapsed, job, sink, bytes⟩] }
    else emitNow sink bytes
  | none => emitNow sink bytes

/-- Write what jobs have written up to a time, in the order of time. -/
def release (time : Nat) : Acting Unit := do
  let s ← get
  let (due, rest) := s.later.partition (·.time ≤ time)
  unless due.isEmpty do
    set { s with later := rest }
    (due.mergeSort fun a b => a.time ≤ b.time).forM fun l => emitNow l.sink l.bytes

def emitText (sink : Sink) (s : String) : Acting Unit := emit sink (bytesOf s)

/-- A message of the shell itself. It names the command of the shell that is being carried out. -/
def complain (message : String) : Acting Unit := do
  let s ← get
  let command := s.command.elim "" (· ++ ": ")
  emitText s.streams.err s!"{s.name}: {s.line}: {command}{message}\n"

/-- A message of the shell, which refuses a command. -/
def abort {α : Type} (message : String) : Acting α := do
  complain message
  throw .refused

/-- Carry out an activity with other streams. -/
def withStreams {α : Type} (streams : Streams) (act : Acting α) : Acting α := do
  let s ← get
  set { s with streams }
  let r ← outcome act
  modify fun t => { t with streams := s.streams }
  match r with
  | .ok a => return a
  | .error e => throw e

/-- Bytes to be read, and the number of their feed. -/
def newFeed (feed : Feed) : Acting Nat := do
  let s ← get
  set { s with feeds := s.feeds ++ [feed] }
  return s.feeds.length

/-- Keep what an activity writes to its output. -/
def captured {α : Type} (act : Acting α) : Acting (α × List UInt8) := do
  let s ← get
  let number := s.pipes.length
  set { s with pipes := s.pipes ++ [[]] }
  let a ← withStreams { s.streams with out := .pipe number } act
  return (a, ((← get).pipes[number]?).getD [])

/-! ### Time -/

/-- Let time pass up to a moment. Jobs go on meanwhile. -/
def passUntil (now : Nat) : Acting Unit := do
  let s ← get
  let isLate := s.limit.any (· < now)
  let now := if isLate then s.limit.getD now else now
  set { s with elapsed := max s.elapsed now }
  if s.job.isNone then release now
  if isLate then throw .timedOut

/-- Let time pass. -/
def pass (nanoseconds : Nat) : Acting Unit := do passUntil ((← get).elapsed + nanoseconds)

/-- The input. -/
def Session.feed (s : Session) : Feed := (s.feeds[s.streams.input]?).getD ⟨[], none⟩

/-- Leave only some bytes of the input. -/
def keepInput (bytes : List UInt8) : Acting Unit :=
  modify fun s => { s with feeds := s.feeds.modify s.streams.input fun f => { f with bytes } }

/-- All that is left of the input. -/
def takeInput : Acting (List UInt8) := do
  let bytes := (← get).feed.bytes
  keepInput []
  return bytes

end StepFlow.Shell
