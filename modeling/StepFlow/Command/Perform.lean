import StepFlow.Command.Arguments
import StepFlow.Command.Plan
import StepFlow.Command.Variables
import StepFlow.RunLog.Store
import StepFlow.Settings.Store
import StepFlow.Workflow.Load
import StepFlow.Yaml.Read

/-!
# Performing commands

What the commands of the program do. A command ends with an exit code: 0 for success, 1 for a failure
and 2 for a workflow that is refused. Only faults that no command foresees escape.

## Main definitions

* `Command.initialise`, `listWorkflows`, `showLogs`, `runWorkflow` — the commands
* `Arguments.perform` — the command that arguments ask for
* `perform` — a whole command line
-/

namespace StepFlow

namespace Command

/-- The workflow file that `init` makes. -/
def exampleWorkflow : String :=
  "workflows:\n" ++
  "  review:\n" ++
  "    description: Summarize recent changes and review them\n" ++
  "    steps:\n" ++
  "      - name: diff\n" ++
  "        type: command\n" ++
  "        command: git log -5 --stat\n" ++
  "\n" ++
  "      - name: review\n" ++
  "        type: agent\n" ++
  "        agent:\n" ++
  "          type: claude\n" ++
  "        context:\n" ++
  "          files:\n" ++
  "            - \"README*\"\n" ++
  "        prompt: |\n" ++
  "          Review these recent changes and point out risks.\n" ++
  "          Focus: \x7b\x7binput\x7d\x7d\n" ++
  "\n" ++
  "          $previous_output\n" ++
  "        on_failure: continue\n" ++
  "\n" ++
  "      - name: approve\n" ++
  "        type: human_approval\n"

/-! ### Faults that commands foresee -/

/-- A fault of the settings, or one of the file system. -/
def isSettingsOrFile : Fault → Bool
  | .settings _ | .file .. => true
  | _ => false

/-- A file that cannot be read, or does not hold what it should. -/
def isUnreadable : Fault → Bool
  | .file .. | .nulInPath | .undecodable | .calendar _ | .missingKey _ | .notJson => true
  | .number f => f ≠ .beyondDouble
  | _ => false

/-- Log the errors of a refused definition. -/
def logErrors (errors : List DefinitionError) : Act Unit :=
  errors.forM fun e => Act.logError s!"Validation error: {e.message}"

/-- Go on with the workflows that were loaded. A refused definition ends the command. -/
def orRefuse {α : Type} (load : Act α) (next : α → Act Nat) : Act Nat := do
  match ← Act.attempt load with
  | .ok a => next a
  | .error (.definition errors) =>
    logErrors errors
    return 2
  | .error e => throw e

/-! ### Commands -/

/-- Make the settings and an example workflow, as far as they are missing. -/
def initialise (settings : SettingsDirectory) (file : String) : Act Nat := do
  let existed ← settings.fileExists
  match ← Act.attempt (settings.establish Yaml.read) with
  | .error e =>
    if isSettingsOrFile e then
      Act.logError s!"Failed to initialize configuration: {e.message}"
      return 1
    else throw e
  | .ok _ =>
    let verb := if existed then "Using existing" else "Created"
    Act.printLine s!"{verb} config: {settings.file}"
    let path := (Path.ofText file).text
    if ← Act.exists? path then
      Act.printLine s!"Workflow file already exists: {path}"
    else
      Act.writeText path exampleWorkflow
      Act.printLine s!"Created example workflow: {path}"
    return 0

/-- Print a workflow with the number of its steps and its description. -/
def printWorkflow (w : Workflow) : Act Unit := do
  let count := w.steps.length
  let plural := if count = 1 then "" else "s"
  Act.printLine s!"{w.name} ({count} step{plural})"
  match w.description with
  | none | some "" => pure ()
  | some d => Act.printLine s!"  {d}"

/-- List the workflows in a file. -/
def listWorkflows (file : String) : Act Nat :=
  orRefuse (Workflow.load Yaml.read file) fun workflows => do
    workflows.forM fun w => printWorkflow w.2
    return 0

/-- The number of steps in a record. -/
def stepCount : Value → Except Fault Nat
  | .list xs => return xs.length
  | .map kvs => return kvs.length
  | .str s => return s.length
  | .rough t => return t.points.length
  | .bytes bs => return bs.length
  | v => throw (.wrongKind s!"object of type '{v.kind}' has no len()")

/-- A value whose text can be printed. -/
def isPrintable : Value → Bool
  | .rough _ => false
  | _ => true

/-- The line of a record, as it is printed. -/
def recordLine (r : RunRecord) : Except Fault String := do
  let count ← stepCount r.steps
  let line := s!"{← r.runId.text}  {← r.workflow.text}  {← r.status.text}  {count} step result(s)"
  if [r.runId, r.workflow, r.status].all isPrintable then return line else throw .unencodable

/-- Print the line of a run log; one that cannot be read is passed over. -/
def printLog (file : Path) : Act Unit := do
  match ← Act.attempt (RunRecord.load file.text) with
  | .ok record => Act.printLine (← Act.ofExcept (recordLine record))
  | .error e =>
    let name := file.names.getLastD ""
    if isUnreadable e then Act.warn s!"Skipping unreadable run log {name}: {e.message}"
    else throw e

/-- Print the whole of a run log. -/
def printWholeLog (file : Path) : Act Nat := do
  match ← Act.attempt (RunRecord.load file.text) with
  | .ok record =>
    Act.printLine (← Act.ofExcept (Json.write .indented record.toValue))
    return 0
  | .error e =>
    if isUnreadable e then
      Act.logError s!"Failed to read run log {file.text}: {e.message}"
      return 1
    else throw e

/-- List the run logs, or print the newest one. -/
def showLogs (settings : SettingsDirectory) (last : Bool) : Act Nat := do
  let directory ← Act.attempt do settings.logDirectory (← settings.load Yaml.read)
  match directory with
  | .error (.settings f) =>
    Act.logError f.message
    return 1
  | .error e => throw e
  | .ok directory =>
    match ← RunLog.files directory with
    | [] =>
      Act.printLine s!"No run logs in {directory.text}"
      return 0
    | newest :: older =>
      if last then printWholeLog newest
      else
        (newest :: older).forM printLog
        return 0

/-- The message of the failure that a run halted with. -/
def failureMessage (report : Report) : String :=
  ((report.results.getLast?).bind (·.error)).elim "unknown error" (·.message)

/-- Run a workflow with a run log, and tell how it went. -/
def runLogged (settings : Settings) (directory : Path) (w : Workflow) (input : String)
    (vars : List (Value × Value)) : Act Nat := do
  let log ← RunLog.create directory w.name input vars ""
  let file ← RunLog.start log
  Act.info s!"Created new run: {log.runId}"
  let outcome ← Act.attempt do
    Act.ofExcept w.check
    Run.execute
      { workflow := w, settings, input, vars, hooks := RunLog.hooks {} }
  match outcome with
  | .error (.definition errors) =>
    RunLog.fail (Fault.definition errors).message
    logErrors errors
    return 2
  | .error e =>
    if Run.passesOn e then
      RunLog.fail e.message
      Act.logError e.message
      return 1
    else throw e
  | .ok report =>
    RunLog.finish report.status report.haltedStep?
    Act.info s!"Run log written to {file.text}"
    match report.haltedStep? with
    | some step =>
      Act.logError s!"Workflow halted at step '{step}': {failureMessage report}"
      return 1
    | none =>
      if let some r := report.results.getLast? then Act.printLine r.output
      return 0

/-- Run a workflow of a file, or print its plan. -/
def runWorkflow (directory : SettingsDirectory) (choice : RunChoice) : Act Nat := do
  match ← Act.attempt (directory.load Yaml.read) with
  | .error (.settings f) =>
    Act.logError f.message
    return 1
  | .error e => throw e
  | .ok settings =>
    orRefuse (Workflow.loadNamed Yaml.read choice.file choice.workflow) fun w => do
      match Variables.read (choice.vars.getD []) with
      | .error (.variableItem f) =>
        Act.logError f.message
        return 2
      | .error e => throw e
      | .ok vars =>
        if choice.dryRun then
          Act.printLine (← Act.ofExcept (Plan.describe w))
          Act.info "[DRY RUN] Workflow validation successful"
          return 0
        else
          let logs ← directory.logDirectory settings
          runLogged settings logs w choice.input vars

end Command

/-! ### Command lines -/

/-- What is printed to one who asks for help or names no command. -/
def usage : String := "usage: ai-workflow [-h] [--config-dir CONFIG_DIR] COMMAND ..."

/-- Perform the command that arguments ask for. -/
def Arguments.perform (a : Arguments) : Act Nat := do
  match a.command with
  | none =>
    Act.printLine usage
    return 1
  | some (choice, _) =>
    match choice with
    | .list file => Command.listWorkflows file
    | .init file => Command.initialise (← SettingsDirectory.named a.configDir) file
    | .logs last => Command.showLogs (← SettingsDirectory.named a.configDir) last
    | .run choice => Command.runWorkflow (← SettingsDirectory.named a.configDir) choice

/-- How a command line ends. -/
inductive CommandEnd where
  /-- A command ended with an exit code. -/
  | performed (code : Nat)
  /-- The arguments were refused or asked for help; the program ends with an exit code. -/
  | refused (code : Nat)
  deriving DecidableEq, Repr

/-- Perform a command line. -/
def performLine (args : List String) : Act CommandEnd := do
  match Arguments.read args with
  | .ok a => return .performed (← a.perform)
  | .error .help =>
    Act.printLine usage
    return .refused 0
  | .error .misuse => return .refused 2

end StepFlow
