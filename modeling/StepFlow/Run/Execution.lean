import StepFlow.Failure.Policy
import StepFlow.Run.Attempt
import StepFlow.Workflow.Check

/-!
# Runs

A run attempts the steps of a workflow in order. When a step fails, its failure policy decides: the
run goes on, halts, or attempts a step again until it succeeds or no retries are left. Every attempt
is recorded; the history of a run is the list of its results.

Observers are told of every attempt and of the end of the run, through `Hooks`.

## Main definitions

* `Hooks` — observers
* `Run` — a workflow with all that a run of it needs
* `Run.attempt`, `Run.retry`, `Run.recover`, `Run.steps` — the parts of a run
* `Run.execute` — a whole run
-/

namespace StepFlow

/-- What observers do when they are told of something. -/
structure Hooks where
  onStepStart : Option (Step → Nat → Act Unit) := none
  onStepComplete : Option (Step → StepResult → Act Unit) := none
  onError : Option (Step → StepError → Act Unit) := none
  onRunComplete : Option (List StepResult → Act Unit) := none

/-- How a run ended. -/
inductive RunEnd where
  | completed
  /-- At the step of this name and position. -/
  | halted (step : String) (index : Nat)
  deriving DecidableEq, Repr, Inhabited

/-- What a run has to show. -/
structure Report where
  workflow : String
  ending : RunEnd
  results : List StepResult
  deriving Repr, Inhabited

namespace Report

def completed (r : Report) : Bool := r.ending == .completed

def status (r : Report) : String := if r.completed then "completed" else "halted"

def haltedStep? (r : Report) : Option String :=
  match r.ending with
  | .completed => none
  | .halted step _ => some step

def haltedIndex? (r : Report) : Option Nat :=
  match r.ending with
  | .completed => none
  | .halted _ index => some index

end Report

/-- A workflow with all that a run of it needs. -/
structure Run where
  workflow : Workflow
  settings : Settings := {}
  hooks : Hooks := {}
  input : String := ""
  vars : List (Value × Value) := []

namespace Run

/-- What templates see after the given results. -/
def scope (r : Run) (results : List StepResult) : Scope :=
  ⟨r.input, outputsOf results, r.vars⟩

/-! ### One attempt -/

/-- Tell an observer, if there is one. -/
def notify {α : Type} (hook : Option (α → Act Unit)) (a : α) : Act Unit :=
  match hook with
  | some f => f a
  | none => pure ()

/-- Attempt the step at a position, after the given results. -/
def attempt (r : Run) (results : List StepResult) (index : Nat) (s : Step) (number : Nat) :
    Act StepResult := do
  let type ← Act.ofExcept s.type.text
  Act.info <| s!"Step {index + 1}/{r.workflow.steps.length}: {s.name} ({type})"
    ++ (if 1 < number then s!" attempt {number}" else "")
  notify (r.hooks.onStepStart.map fun f => f s) index
  let result ← s.execute r.settings (r.scope results) index number
  notify (r.hooks.onStepComplete.map fun f => f s) result
  if let some e := result.error then notify (r.hooks.onError.map fun f => f s) e
  return result

/-! ### Failures -/

/-- The pause before a retry, in seconds; milliseconds too many for a double are a fault. -/
def pause (delayMs : Int) : Except Fault Double :=
  match Double.ofInt? delayMs with
  | some ms => return ms.div (.ofInt 1000)
  | none => throw (.number .beyondDouble)

/-- Wait before a retry. -/
def wait (delayMs : Int) : Act Unit := do
  if 0 < delayMs then Act.sleep (← Act.ofExcept (pause delayMs))

/-- How often the step at a position has been attempted. -/
def attemptsOf (results : List StepResult) (index : Nat) : Nat :=
  (results.filter (·.index == index)).length

/-- Attempt the step at position `index` until it succeeds, at most `left` times more. `failed` is
the name of the step whose failure is to be repaired, and `number` counts the retries. Gives all
results and whether an attempt succeeded. -/
def retry (r : Run) (failed : String) (index : Nat) (target : Step) (maxRetries delayMs : Int) :
    (left number : Nat) → List StepResult → Act (List StepResult × Bool)
  | 0, _, results => do
    let most ← Act.ofExcept ((integerText maxRetries).mapError .number)
    Act.logError s!"Step '{target.name}' still failing after {most} retries; stopping"
    return (results, false)
  | left + 1, number, results => do
    let most ← Act.ofExcept ((integerText maxRetries).mapError .number)
    Act.warn <| s!"Retrying step '{target.name}' after failure of '{failed}' "
      ++ s!"(retry {number}/{most})"
    wait delayMs
    let result ← r.attempt results index target (attemptsOf results index + 1)
    let results := results ++ [result]
    if result.success then return (results, true)
    else retry r failed index target maxRetries delayMs left (number + 1) results

/-- The action that follows the failure of a step. A malformed declaration stops the run. -/
def actionAfter (s : Step) (index : Option Int) : Act (Option FailureAction) := do
  match Policy.read index s.onFailure with
  | .ok action => return action
  | .error e =>
    let reason ← Act.ofExcept e.refusal
    Act.warn s!"Step '{s.name}': invalid on_failure ({reason}); stopping"
    return some .stop

/-- Apply the failure policy of the step at a position, which has just failed. Gives all results and
whether the run goes on. -/
def recover (r : Run) (index : Nat) (s : Step) (results : List StepResult) :
    Act (List StepResult × Bool) := do
  match ← actionAfter s (some (index : Int)) with
  | none =>
    Act.logError s!"Step '{s.name}' failed with no on_failure policy; stopping"
    return (results, false)
  | some .proceed =>
    Act.warn s!"Step '{s.name}' failed; continuing (on_failure=continue)"
    return (results, true)
  | some .stop =>
    Act.logError s!"Step '{s.name}' failed; stopping (on_failure=stop)"
    return (results, false)
  | some (.retry target maxRetries delayMs) =>
    match target.resolve r.workflow.stepNames with
    | .error e =>
      Act.logError s!"Step '{s.name}': {e.message}; stopping"
      return (results, false)
    | .ok i =>
      match r.workflow.steps[i]? with
      | none => return (results, false)
      | some t => r.retry s.name i t maxRetries delayMs maxRetries.toNat 1 results

/-! ### The whole run -/

/-- Attempt the remaining steps, the first of which is at position `index`. -/
def steps (r : Run) : (index : Nat) → List Step → List StepResult → Act (List StepResult × RunEnd)
  | _, [], results => return (results, .completed)
  | index, s :: rest, results => do
    let result ← r.attempt results index s 1
    let results := results ++ [result]
    if result.success then steps r (index + 1) rest results
    else
      let (results, goesOn) ← r.recover index s results
      if goesOn then steps r (index + 1) rest results
      else return (results, .halted s.name index)

/-- Faults that a run passes on as they are. -/
def passesOn : Fault → Bool
  | .execution _ | .unknownStepType .. => true
  | .foreign label _ => label = "WorkflowExecutionError" || label = "WorkflowDefinitionError"
  | _ => false

/-- The fault that a run ends with when `e` has escaped its steps. -/
def escaped (e : Fault) : Fault :=
  if passesOn e then e else .execution e.message

/-- Attempt all steps and tell the observers of the end. -/
def body (r : Run) : Act Report := do
  let (results, ending) ← r.steps 0 r.workflow.steps []
  notify r.hooks.onRunComplete results
  return ⟨r.workflow.name, ending, results⟩

/-- Run a workflow that has been checked. -/
def execute (r : Run) : Act Report := do
  Act.info s!"Running workflow '{r.workflow.name}' ({r.workflow.steps.length} steps)"
  match ← Act.attempt r.body with
  | .error e => throw (escaped e)
  | .ok report =>
    match report.ending with
    | .completed => Act.info s!"Workflow '{r.workflow.name}' completed"
    | .halted step _ => Act.warn s!"Workflow '{r.workflow.name}' halted at step '{step}'"
    return report

end Run

end StepFlow
