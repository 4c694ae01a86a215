import StepFlow.Command.Options
import StepFlow.Fields
import StepFlow.Fault
import StepFlow.Text.Case
import StepFlow.Value.Basic

/-!
# Arguments of the program

The program has four commands: `init` makes settings and an example workflow, `run` runs a workflow,
`list` lists workflows and `logs` lists run logs. Each has options of its own, and all share those on
the log level. The directory of settings is named before the command.

## Main definitions

* `Arguments`, `Arguments.read`
* `LogChoice.level` — the log level in effect
-/

namespace StepFlow

namespace Command

/-- What is said about the log level. -/
structure LogChoice where
  debug : Bool := false
  verbose : Bool := false
  quiet : Bool := false
  level : Option String := none
  deriving DecidableEq, Repr, Inhabited

/-- A run that is asked for. -/
structure RunChoice where
  workflow : String
  input : String
  file : String
  /-- Items that bind variables. -/
  vars : Option (List String)
  dryRun : Bool
  deriving DecidableEq, Repr, Inhabited

/-- The commands. -/
inductive Choice where
  | init (file : String)
  | run (choice : RunChoice)
  | list (file : String)
  | logs (last : Bool)
  deriving DecidableEq, Repr, Inhabited

end Command

open Command

/-- The arguments of the program. -/
structure Arguments where
  configDir : Option String
  /-- The command, if there is one. -/
  command : Option (Choice × LogChoice)
  deriving DecidableEq, Repr, Inhabited

namespace Arguments

/-! ### Grammars -/

private def fileOption : OptionSpec := ⟨["-f", "--file"], "file", true, none⟩

private def switch (name key : String) : OptionSpec := ⟨[name], key, false, none⟩

/-- Options on the log level. -/
private def logOptions : List OptionSpec :=
  [switch "--debug" "debug", switch "--verbose" "verbose", switch "--quiet" "quiet",
   ⟨["--log-level"], "log_level", true, some logLevelNames⟩]

/-- What stands before a command. -/
def mainGrammar : Grammar :=
  ⟨[helpOption, ⟨["--config-dir"], "config_dir", true, none⟩], [.remainder]⟩

def initGrammar : Grammar := ⟨[helpOption, fileOption] ++ logOptions, []⟩

def runGrammar : Grammar :=
  ⟨[helpOption, fileOption, ⟨["--var"], "var", true, none⟩, switch "--dry-run" "dry_run"]
    ++ logOptions, [.one "workflow", .optional "input"]⟩

def listGrammar : Grammar := ⟨[helpOption, fileOption] ++ logOptions, []⟩

def logsGrammar : Grammar := ⟨[helpOption, switch "--last" "last"] ++ logOptions, []⟩

/-! ### Reading -/

private def fileOf (g : Given) : String := (g.last? "file").getD "workflow.yml"

private def logChoice (g : Given) : LogChoice :=
  ⟨g.has "debug", g.has "verbose", g.has "quiet", g.last? "log_level"⟩

private def runChoice (g : Given) : RunChoice where
  workflow := (g.last? "workflow").getD ""
  input := (g.last? "input").getD ""
  file := fileOf g
  vars := if g.has "var" then some (g.all "var") else none
  dryRun := g.has "dry_run"

/-- The command of a given name. -/
def command? (name : String) : Option (Grammar × (Given → Choice)) :=
  if name = "init" then some (initGrammar, fun g => .init (fileOf g))
  else if name = "run" then some (runGrammar, fun g => .run (runChoice g))
  else if name = "list" then some (listGrammar, fun g => .list (fileOf g))
  else if name = "logs" then some (logsGrammar, fun g => .logs (g.has "last"))
  else none

/-- The arguments in a command line. Arguments that fit nowhere make it a misuse. -/
def read (args : List String) : Except Refusal Arguments := do
  let g ← mainGrammar.read args
  let (command, extras) ← match g.remainder with
    | none => pure (none, [])
    | some words =>
      match words with
      | [] => throw .misuse
      | name :: rest =>
        match command? name with
        | none => throw .misuse
        | some (grammar, make) =>
          let sub ← grammar.read rest
          pure (some (make sub, logChoice sub), sub.extras)
  if (g.extras ++ extras).isEmpty then return ⟨g.last? "config_dir", command⟩ else throw .misuse

/-! ### Showing -/

private def optionalText : Option String → Value
  | some s => .str s
  | none => .null

/-- The name of a command and its own arguments. -/
def choiceFields : Choice → String × Fields Value
  | .init file => ("init", [("file", .str file)])
  | .run c => ("run",
      [("workflow", .str c.workflow), ("input", .str c.input), ("file", .str c.file),
       ("var", match c.vars with
         | some vs => .list (vs.map .str)
         | none => .null),
       ("dry_run", .bool c.dryRun)])
  | .list file => ("list", [("file", .str file)])
  | .logs last => ("logs", [("last", .bool last)])

/-- All arguments as named values, in the order of their names. -/
def fields (a : Arguments) : Fields Value :=
  Fields.sorted <| [("config_dir", optionalText a.configDir)] ++
    match a.command with
    | none => [("command", .null)]
    | some (choice, log) =>
      let (name, own) := choiceFields choice
      [("command", .str name), ("debug", .bool log.debug), ("verbose", .bool log.verbose),
       ("quiet", .bool log.quiet), ("log_level", optionalText log.level)] ++ own

end Arguments

/-! ### Log levels -/

/-- The number of a log level by its name, in any case; an unknown name is that of the default. -/
def logLevelNumber (name : String) : Nat :=
  let name := Text.raisedAscii name
  if name = "DEBUG" then 10
  else if name = "WARN" || name = "WARNING" then 30
  else if name = "ERROR" then 40
  else if name = "CRITICAL" || name = "FATAL" then 50
  else if name = "NOTSET" then 0
  else 20

/-- The log level in effect: the switches first, then the level that is named, then that of the
settings. -/
def Command.LogChoice.levelNumber (c : LogChoice) (configured : Option String) : Nat :=
  if c.debug || c.verbose then logLevelNumber "debug"
  else if c.quiet then logLevelNumber "error"
  else
    let named := c.level.filter (· ≠ "")
    logLevelNumber ((named.orElse fun _ => configured).getD "info")

end StepFlow
