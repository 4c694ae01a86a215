import StepFlow.Files.Tree
import StepFlow.RunLog.Basic
import StepFlow.Text.Utf8
import StepFlow.Workflow.Basic

/-!
# The world of a run

A run reads and changes files, starts processes, calls agents, reads the clock, waits, and writes log
lines. `Act` is the type of such activities: they may fail with a `Fault`, and what they did to the
world until then stays done.

What the outside answers is given by `Surroundings`. Each answer may depend on everything that has
happened before, so `Surroundings` stands for any deterministic outside whatever. What a run did is
kept in the `World`: every event in order, every change of a file, every log line.

## Main definitions

* `Surroundings`, `World`, `Act`
* `Act.shell`, `agent`, `chat`, `sleep`, `now`, `log` — what an activity can do
* `Act.readText`, `writeText`, `ensureDirectory` — files
-/

namespace StepFlow

/-! ### Calls and answers -/

/-- A shell command to be run, with the seconds it may take. -/
structure ShellCall where
  command : String
  timeout : Value
  deriving Repr, Inhabited

/-- How a shell command ended. -/
inductive ShellReply where
  /-- It exited; a negative code is the signal that ended it. -/
  | exited (stdout stderr : List UInt8) (code : Int)
  /-- Its time ran out after it had written this, as far as that is known. -/
  | timedOut (stdout stderr : Option (List UInt8))
  /-- It could not be started. -/
  | notStarted (reason : String)
  | crashed (reason : String)
  /-- The call itself is at fault. -/
  | refused (fault : Fault)
  deriving Repr, Inhabited

/-- A program to be run with arguments. -/
structure ProgramCall where
  argv : List String
  stdin : Option String
  env : List (String × String)
  timeout : Value
  deriving Repr, Inhabited

/-- How a program ended. -/
inductive ProgramReply where
  | exited (stdout stderr : String) (code : Int)
  | timedOut
  | notFound
  | notStarted (reason : String)
  | crashed (reason : String)
  deriving Repr, Inhabited

/-- A request to a chat service. -/
structure ChatCall where
  model : String
  /-- Role and content of each message. -/
  messages : List (String × String)
  maxTokens : Nat
  temperature : Value
  deriving Repr, Inhabited

/-- Tokens read and written by a chat service. -/
structure TokenUsage where
  input : Int
  output : Int
  deriving DecidableEq, Repr, Inhabited

/-- The answer of a chat service. -/
inductive ChatReply where
  | answered (content : Option String) (usage : Option TokenUsage)
  | failed (reason : String)
  | noChoices
  | crashed (reason : String)
  deriving Repr, Inhabited

/-! ### Events and log lines -/

/-- What an observer of a run is told. -/
inductive Notice where
  | stepStarted (step : Step) (index : Nat)
  | stepCompleted (step : Step) (result : StepResult)
  | stepFailed (step : Step) (error : StepError)
  | runCompleted (results : List StepResult)
  deriving Repr, Inhabited

/-- What a run did to the outside, or was seen to do. -/
inductive Event where
  | shell (call : ShellCall)
  | program (call : ProgramCall)
  /-- A client of the chat service is set up, with a key of its own or a given one. -/
  | chatClient (key : Option String)
  | chat (call : ChatCall)
  | slept (seconds : Double)
  | noticed (notice : Notice)
  deriving Repr, Inhabited

inductive Severity where
  | info
  | warning
  | error
  deriving DecidableEq, Repr, Inhabited

structure LogLine where
  severity : Severity
  message : String
  deriving DecidableEq, Repr, Inhabited

/-! ### Surroundings and world -/

/-- What lies outside a run. -/
structure Surroundings where
  /-- The environment, with what a file `.env` may have added to it. -/
  env : List (String × String)
  /-- The directory that relative paths start from. -/
  workspace : Path
  /-- The answer to a shell command and the changes it makes to files. -/
  shell : List Event → FileTree → ShellCall → ShellReply × List Change
  program : List Event → ProgramCall → ProgramReply
  chat : List Event → ChatCall → ChatReply
  /-- Why no client of the chat service can be set up with a key, if that is so. -/
  chatClient : List Event → (key : String) → Option String := fun _ _ => none
  /-- What the clock shows when it is read for the n-th time. -/
  clock : Nat → Instant
  /-- Why a pause of so many seconds is refused, after the clock has been read so often, if it is. -/
  sleep : Nat → (seconds : Double) → Option WaitFault := fun _ _ => none
  /-- What the identifiers of new runs end in. -/
  runSuffix : String := ""

/-- The seconds that a clock counts which has 63 bits for nanoseconds. -/
def clockSeconds : Int := 9223372036

/-- Such a clock refuses a pause whose end it could not show. -/
def clockRefusal (seconds : Double) : Option WaitFault :=
  if seconds.compareInt? clockSeconds = some .gt then some .beyondClock else none

/-- What a run has done so far. -/
structure World where
  files : FileTree := {}
  /-- Every change of a file, in order. -/
  changes : List Change := []
  events : List Event := []
  logs : List LogLine := []
  /-- How often the clock has been read. -/
  readings : Nat := 0
  /-- The lines printed. -/
  printed : List String := []
  /-- The run log that is kept. -/
  runLog : Option RunLog := none
  deriving Inhabited

/-- An activity: it knows its surroundings, changes the world and may fail. -/
abbrev Act := ReaderT Surroundings (ExceptT Fault (StateM World))

namespace Act

/-- Carry out an activity. -/
def perform {α : Type} (a : Act α) (out : Surroundings) (w : World) : Except Fault α × World :=
  a out w

/-- The outcome of an activity as a value, so that a fault does not end the whole. -/
def attempt {α : Type} (a : Act α) : Act (Except Fault α) :=
  fun out w => let (r, w) := a out w; (.ok r, w)

def ofExcept {α : Type} : Except Fault α → Act α
  | .ok a => pure a
  | .error e => throw e

/-! ### Log, clock and output -/

def log (severity : Severity) (message : String) : Act Unit :=
  modify fun w => { w with logs := w.logs ++ [⟨severity, message⟩] }

def info (message : String) : Act Unit := log .info message

def warn (message : String) : Act Unit := log .warning message

def logError (message : String) : Act Unit := log .error message

/-- Read the clock. -/
def now : Act Instant := do
  let out ← read
  let w ← get
  set { w with readings := w.readings + 1 }
  return out.clock w.readings

/-- Print a line. -/
def printLine (line : String) : Act Unit :=
  modify fun w => { w with printed := w.printed ++ [line] }

/-! ### Events -/

def record (e : Event) : Act Unit :=
  modify fun w => { w with events := w.events ++ [e] }

/-- Change a file. -/
def change (c : Change) : Act Unit :=
  modify fun w => { w with files := w.files.apply c, changes := w.changes ++ [c] }

/-- Run a shell command. -/
def shell (call : ShellCall) : Act ShellReply := do
  let out ← read
  let w ← get
  record (.shell call)
  let (reply, changes) := out.shell w.events w.files call
  changes.forM change
  return reply

/-- Run a program. -/
def program (call : ProgramCall) : Act ProgramReply := do
  let out ← read
  let w ← get
  record (.program call)
  return out.program w.events call

/-- Ask the chat service. -/
def chat (call : ChatCall) : Act ChatReply := do
  let out ← read
  let w ← get
  record (.chat call)
  return out.chat w.events call

/-- Set up a client of the chat service with a key. -/
def setUpClient (key : String) : Act Unit := do
  let out ← read
  let w ← get
  match out.chatClient w.events key with
  | some reason => throw (.foreign "RuntimeError" reason)
  | none => record (.chatClient (some key))

/-- Wait. -/
def sleep (seconds : Double) : Act Unit := do
  let out ← read
  let w ← get
  match out.sleep w.readings seconds with
  | some fault => throw (.wait fault)
  | none => record (.slept seconds)

/-- The value of a variable of the environment. -/
def envValue (name : String) : Act (Option String) := do
  let out ← read
  return (out.env.find? (·.1 == name)).map (·.2)

/-! ### Files -/

/-- The place that relative paths start from. -/
def here : Act Place := return (← read).workspace.names

/-- What the file system grants for a path, or its refusal. -/
def refused {α : Type} (path : String) : Except FileCause α → Act α
  | .ok a => pure a
  | .error cause => throw (.file cause path)

/-- A path that contains NUL denotes nothing. -/
def requireNulFree (path : String) : Act Unit :=
  if path.toList.contains '\x00' then throw .nulInPath else pure ()

/-- What stands where a path leads, if anything does. -/
def look? (path : String) : Act (Option Entry) := do
  if path.toList.contains '\x00' then return none
  else refused path ((← get).files.look? (← here) path)

def exists? (path : String) : Act Bool := return (← look? path).isSome

def isDirectory (path : String) : Act Bool := return (← look? path) = some .directory

/-- The bytes of a file. -/
def readBytes (path : String) : Act (List UInt8) := do
  requireNulFree path
  refused path ((← get).files.read (← here) path)

/-- The text of a file, with uniform line ends. -/
def readText (path : String) : Act (List Char) := do
  match Text.Utf8.decode? (← readBytes path) with
  | some cs => return Text.normalizeNewlines cs
  | none => throw .undecodable

/-- Make a file empty, creating it if need be, and give its place. -/
def openForWriting (path : String) : Act Place := do
  requireNulFree path
  let place ← refused path ((← get).files.writable (← here) path)
  change (.write place [])
  return place

/-- Replace the text of a file. -/
def writeText (path text : String) : Act Unit := do
  let place ← openForWriting path
  change (.write place (Text.Utf8.encode text.toList))

/-- Make one directory. -/
def makeOneDirectory (path : String) : Act Unit := do
  requireNulFree path
  let place ← refused path ((← get).files.makable (← here) path)
  change (.makeDirectory place)

/-- Make one directory, or find that it exists. -/
def ensureOneDirectory (path : String) : Act Unit := do
  match ← attempt (makeOneDirectory path) with
  | .ok () => pure ()
  | .error e => if ← isDirectory path then pure () else throw e

/-- Make a directory, and before it, as far as they are missing, the directories it lies in. The path
is given by its names, last name first. -/
def ensureDirectories (root : String) : List String → Act Unit
  | [] => pure ()
  | name :: parents => do
    let path := (Path.mk root (name :: parents).reverse).text
    match ← attempt (ensureOneDirectory path) with
    | .ok () => pure ()
    | .error (.file .notFound _) =>
      ensureDirectories root parents
      ensureOneDirectory path
    | .error e => throw e

/-- Make a directory with all that it lies in, as far as they are missing. -/
def ensureDirectory (path : Path) : Act Unit :=
  ensureDirectories path.root path.names.reverse

/-- Move a file to another path, in place of a file that stands there. -/
def renameFile (source target : String) : Act Unit := do
  let place ← refused source ((← get).files.locate (← here) source)
  let target ← refused target ((← get).files.writable (← here) target)
  change (.rename place target)

end Act

end StepFlow
