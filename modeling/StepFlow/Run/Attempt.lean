import StepFlow.Agent.Basic
import StepFlow.Run.Context
import StepFlow.Run.Result

/-!
# Attempts

One attempt of a step: its templates are resolved, the agent or the shell is asked, and the outcome
is recorded. Every failure becomes part of the result; only a step of unknown type is a fault.
-/

namespace StepFlow

namespace Step

/-- The outcome of a step: its output or a failure of its own kind. -/
abbrev Outcome := Except StepError String

/-- A failure with details. -/
def failure (type message : String) (context : List (String × Value)) : Outcome :=
  .error ⟨type, message, .ofFields context⟩

/-- The failure of an agent, with the type of the agent in effect. -/
def agentFailure (s : Step) (settings : Settings) (e : Fault) : Outcome :=
  failure "agent_error" e.message [("agent", .str (settings.agentInEffect s.agent).type)]

/-- Ask an agent. -/
def askAgent (s : Step) (settings : Settings) (scope : Scope) : Act Outcome := do
  match nonEmpty? s.prompt with
  | none => return failure "missing_prompt" s!"Agent step '{s.name}' requires a prompt" []
  | some template =>
    match ← Act.attempt (settings.createAgent s.agent) with
    | .error e => return s.agentFailure settings e
    | .ok agent =>
      let context ← buildContext s.context scope
      let prompt ← Act.ofExcept (Template.resolve scope template)
      match ← Act.attempt (agent.answer { prompt, context := some context }) with
      | .error e => return s.agentFailure settings e
      | .ok response =>
        if let some u := response.usage then
          Act.info s!"Step '{s.name}': {u.input} input / {u.output} output tokens"
        return .ok response.content

/-- What the result of a command means for its step. -/
def commandOutcome (command : String) (r : CommandResult) : Outcome :=
  if r.exitCode = 0 then .ok r.stdout
  else
    failure (if r.timedOut then "timeout" else "command_failed")
      s!"Command failed with exit code {r.exitCode}: {r.stderr}"
      [("command", .str command), ("exit_code", .int r.exitCode), ("stderr", .str r.stderr)]

/-- Run a command. -/
def runShell (s : Step) (scope : Scope) : Act Outcome := do
  match nonEmpty? s.command with
  | none => return failure "missing_command" s!"Command step '{s.name}' requires a command" []
  | some template =>
    let command ← Act.ofExcept (Template.resolve scope template)
    return commandOutcome command (← runCommand command s.timeout)

/-- Approve; nobody is asked. -/
def approve (s : Step) : Act Outcome := do
  Act.info s!"Human approval required for step: {s.name}"
  return .ok "Approved (auto)"

/-- Do what a step of a given type does. -/
def act (s : Step) (settings : Settings) (scope : Scope) : StepType → Act Outcome
  | .agent => s.askAgent settings scope
  | .command => s.runShell scope
  | .approval => s.approve

/-- The error that stands for a fault no step expects. -/
def unexpected (e : Fault) : StepError :=
  ⟨"execution_error", if e.message = "" then e.label else e.message,
    .ofFields [("exception", .str e.label)]⟩

/-- The type of a step, or the fault that there is no such type. -/
def requireType (s : Step) : Except Fault StepType :=
  match s.type? with
  | some t => return t
  | none => do
    if s.type.isKey then
      let t ← s.type.text
      throw (.unknownStepType t s.name)
    else throw (.wrongKind s!"unhashable type: '{s.type.kind}'")

/-- One attempt of the step at a position. -/
def execute (s : Step) (settings : Settings) (scope : Scope) (index attempt : Nat) :
    Act StepResult := do
  let type ← Act.ofExcept s.requireType
  let startedAt ← Act.now
  let outcome ← Act.attempt (s.act settings scope type)
  let endedAt ← Act.now
  let (output, error) := match outcome with
    | .ok (.ok output) => (output, none)
    | .ok (.error e) => ("", some e)
    | .error e => ("", some (unexpected e))
  if let some e := error then Act.logError s!"Step '{s.name}' failed: {e.message}"
  return {
    name := s.name, index, attempt, output, startedAt, endedAt, error
    durationMs := startedAt.millisecondsBetween endedAt }

end Step

end StepFlow
