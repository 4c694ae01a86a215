import StepFlow.Json.Read
import StepFlow.Json.Write
import StepFlow.Run.Execution

/-!
# Keeping run logs

The run log that is kept is written to its file when the run starts, after every attempt, and at the
end. Each time it is written to a temporary file, which then takes the place of the former one, so
that the file holds a whole record at any time.

## Main definitions

* `RunLog.create`, `start`, `add`, `finish`, `fail` — the life of a run log
* `RunLog.hooks` — hooks that add every result
* `RunLog.files`, `RunRecord.load` — stored run logs
-/

namespace StepFlow

namespace RunLog

/-! ### The log that is kept -/

/-- Begin a run log; an empty identifier asks for a new one. -/
def create (directory : Path) (workflow input : String) (vars : List (Value × Value))
    (runId : String) : Act RunLog := do
  let runId ← if runId = "" then pure (idAt (← Act.now) (← read).runSuffix) else pure runId
  let now ← Act.now
  let log : RunLog :=
    { directory, runId, workflow, input, vars, startedAt := now, updatedAt := now }
  modify fun w => { w with runLog := some log }
  return log

/-- Change the run log that is kept. -/
def update (f : RunLog → RunLog) : Act Unit :=
  modify fun w => { w with runLog := w.runLog.map f }

/-- Write the run log that is kept. -/
def save : Act Unit := do
  let now ← Act.now
  update ({ · with updatedAt := now })
  if let some log := (← get).runLog then
    let temporary := log.temporaryFile.text
    let place ← Act.openForWriting temporary
    let text ← Act.ofExcept (Json.write .indented log.record.toValue)
    Act.change (.write place (Text.Utf8.encode text.toList))
    Act.renameFile temporary log.file.text

/-- Write a new run log; its directory is made if it is missing. -/
def start (log : RunLog) : Act Path := do
  Act.ensureDirectory log.directory
  save
  return log.file

/-- Add the result of an attempt. -/
def add (r : StepResult) : Act Unit := do
  update fun log => { log with results := log.results ++ [r] }
  save

/-- Note how the run ended. -/
def finish (status : String) (haltedStep : Option String) : Act Unit := do
  update fun log => { log with status, haltedStep }
  save

/-- Note that a fault ended the run. -/
def fail (reason : String) : Act Unit := do
  update fun log => { log with status := "failed", error := some reason }
  save

/-- Hooks that add every result, after the given ones. -/
def hooks (base : Hooks) : Hooks where
  onStepStart := base.onStepStart
  onStepComplete := some fun s r => do
    if let some f := base.onStepComplete then f s r
    add r
  onError := base.onError
  onRunComplete := base.onRunComplete

/-! ### Stored logs -/

/-- The name of a run log. -/
def isLogName (name : String) : Bool := ".json".toList.isSuffixOf name.toList

/-- The run logs in a directory, the last name first. Names begin with the time of the start, so that
is the newest one. -/
def files (directory : Path) : Act (List Path) := do
  if ← Act.isDirectory directory.text then
    match (← get).files.list (← Act.here) directory.text with
    | .ok names => return ((sortedTexts (names.filter isLogName)).reverse).map fun n =>
        ⟨directory.root, directory.names ++ [n]⟩
    | .error _ => return []
  else return []

end RunLog

/-- The record in a file. -/
def RunRecord.load (file : String) : Act RunRecord := do
  let text ← Act.readText file
  Act.ofExcept (Json.read text >>= RunRecord.ofValue)

end StepFlow
