import StepFlow.Files.Path
import StepFlow.Run.Result

/-!
# Run logs

A run log tells how a run went: what it was started with, its status, and the results of its attempts
so far. It is stored as a mapping, the record of the run. A record read back from a file need not
come from a run log, so nothing is known of its fields but that the required ones are there.

## Main definitions

* `RunRecord` — a record as it is stored
* `RunRecord.toValue`, `RunRecord.ofValue` — records as mappings
* `RunLog`, `RunLog.record` — the log of a run and its record
* `RunRecord.Tells` — a stored record tells how a run stands

## Main results

* `RunLog.record_tells` — the record of a log tells what is in the log
-/

namespace StepFlow

/-- The record of a run as it is stored. A missing halted step or error is null. -/
structure RunRecord where
  runId : Value
  workflow : Value
  input : Value
  startedAt : Value
  updatedAt : Value
  status : Value
  vars : Value
  steps : Value
  haltedStep : Value := .null
  error : Value := .null
  deriving Repr, Inhabited

namespace RunRecord

/-- A field that is left out when it is null. -/
def unlessNull (name : String) : Value → List (String × Value)
  | .null => []
  | v => [(name, v)]

/-- The mapping that is stored. -/
def toValue (r : RunRecord) : Value :=
  .ofFields <|
    [ ("run_id", r.runId)
    , ("workflow_name", r.workflow)
    , ("input", r.input)
    , ("started_at", r.startedAt)
    , ("updated_at", r.updatedAt)
    , ("status", r.status)
    , ("variables", r.vars)
    , ("steps", r.steps) ]
    ++ unlessNull "halted_step" r.haltedStep
    ++ unlessNull "error" r.error

/-- A field that has to be there. -/
def required (name : String) (fields : List (Value × Value)) : Except Fault Value :=
  match Value.lookup? name fields with
  | some v => return v
  | none => throw (.missingKey (Text.quoted name))

/-- The record in a mapping. -/
def ofValue : Value → Except Fault RunRecord
  | .map fields => do
    let runId ← required "run_id" fields
    let workflow ← required "workflow_name" fields
    let startedAt ← required "started_at" fields
    let updatedAt ← required "updated_at" fields
    let status ← required "status" fields
    return {
      runId, workflow, startedAt, updatedAt, status
      input := (Value.lookup? "input" fields).getD (.str "")
      vars := (Value.lookup? "variables" fields).getD (.map [])
      steps := (Value.lookup? "steps" fields).getD (.list [])
      haltedStep := Value.lookup "halted_step" fields
      error := Value.lookup "error" fields }
  | v => throw (.wrongKind s!"a run record must be a mapping, not {v.kind}")

end RunRecord

/-- The log of a run. -/
structure RunLog where
  /-- The directory that holds the logs. -/
  directory : Path
  runId : String
  workflow : String
  input : String
  vars : List (Value × Value)
  startedAt : Instant
  updatedAt : Instant
  status : String := "running"
  results : List StepResult := []
  haltedStep : Option String := none
  error : Option String := none
  deriving Repr, Inhabited

namespace RunLog

/-- The file of a log. -/
def file (l : RunLog) : Path := l.directory.child (l.runId ++ ".json")

/-- The file that a log is written to before it takes its place. -/
def temporaryFile (l : RunLog) : Path := l.file.withSuffix ".tmp"

/-- The identifier of a run that starts at an instant. -/
def idAt (t : Instant) (suffix : String) : String := t.compact ++ "-" ++ suffix

def optionalText (s : Option String) : Value :=
  match s with
  | some s => .str s
  | none => .null

/-- The record of a log. -/
def record (l : RunLog) : RunRecord where
  runId := .str l.runId
  workflow := .str l.workflow
  input := .str l.input
  startedAt := .str l.startedAt.iso
  updatedAt := .str l.updatedAt.iso
  status := .str l.status
  vars := .map l.vars
  steps := .list (l.results.map StepResult.toValue)
  haltedStep := optionalText l.haltedStep
  error := optionalText l.error

end RunLog

/-! ### What a stored record tells -/

/-- What the mapping that is stored holds under a name, null when there is nothing. -/
def RunRecord.entry (r : RunRecord) (name : String) : Value :=
  match r.toValue with
  | .map fields => Value.lookup name fields
  | _ => .null

/-- A stored record tells how a run stands: its status, its results in order, the step it has halted at
and the fault that has ended it. -/
structure RunRecord.Tells (r : RunRecord) (status : String) (results : List StepResult)
    (haltedStep error : Option String) : Prop where
  status : r.entry "status" = .str status
  steps : r.entry "steps" = .list (results.map StepResult.toValue)
  haltedStep : r.entry "halted_step" = RunLog.optionalText haltedStep
  error : r.entry "error" = RunLog.optionalText error

/-- **The record of a log tells what is in the log.** -/
theorem RunLog.record_tells (l : RunLog) :
    l.record.Tells l.status l.results l.haltedStep l.error := by
  obtain ⟨directory, runId, workflow, input, vars, startedAt, updatedAt, status, results, haltedStep,
    error⟩ := l
  -- a halted step and an error have an entry only if they are there
  cases haltedStep <;> cases error <;> exact ⟨rfl, rfl, rfl, rfl⟩

end StepFlow
