import StepFlow.Failure.Policy
import StepFlow.Workflow.Basic

/-!
# Checking workflows

`Workflow.errors` lists what is wrong with a definition: steps without a name or of an unknown type,
fields that do not go with the type of their step, unknown agents, malformed failure policies and
retry targets that are no step. A step of unknown type is not examined further.
-/

namespace StepFlow

open Text (quotedList)

namespace Step

/-- The name of a step, or a stand-in that gives its position. -/
def label (s : Step) (index : Nat) : String :=
  if s.name = "" then s!"<step_{index}>" else s.name

/-- The fields of a step that are present among those that only some types may declare. -/
def presentFields (s : Step) : List String :=
  (if s.agent.isSome then ["agent"] else [])
    ++ (if s.command.isSome then ["command"] else [])
    ++ (if s.prompt.isSome then ["prompt"] else [])

/-- Fields that do not go with a step's type. -/
def misplaced (s : Step) : StepType → List String
  | .agent => if s.command.isSome then ["agent steps cannot declare 'command'"] else []
  | .command =>
    (if s.agent.isSome then ["command steps cannot declare 'agent'"] else [])
      ++ (if s.prompt.isSome then ["command steps cannot declare 'prompt'"] else [])
  | .approval =>
    if s.presentFields.isEmpty then []
    else [s!"human_approval steps cannot declare {quotedList s.presentFields}"]

/-- The text of a declared type, as far as it has one. -/
def typeText (s : Step) : Except Fault String := s.type.text

/-- Errors of the declared failure policy, the retry target included. -/
def policyErrors (s : Step) (index : Nat) (names : List String) : List PolicyFault :=
  match Policy.read (some (index : Int)) s.onFailure with
  | .error e => [e]
  | .ok (some (.retry target _ _)) =>
    match target.resolve names with
    | .error e => [e]
    | .ok _ => []
  | .ok _ => []

/-- Everything that is wrong with the step at a position, among steps of the given names. The type
is written into the message; a type that has no text cannot be. -/
def errors (s : Step) (index : Nat) (names : List String) : Except Fault (List DefinitionError) := do
  let path := s!"steps[{index}]"
  let name := s.label index
  let unnamed :=
    if s.name = "" then [⟨s!"Step {index} missing required 'name' field", path⟩] else []
  match s.type? with
  | none =>
    let found ← s.typeText
    return unnamed ++ [⟨s!"Step '{name}': unknown step type '{found}'. " ++
      s!"Expected one of {quotedList (StepType.all.map StepType.name)}", s!"{path}.type"⟩]
  | some type =>
    let fields := (s.misplaced type).map fun m => ⟨s!"Step '{name}': {m}", path⟩
    let agent := match s.agent with
      | none => []
      | some a =>
        if (AgentType.ofName? a.type).isSome then []
        else [⟨s!"Step '{name}': unknown agent type '{a.type}'. " ++
          s!"Expected one of {quotedList (AgentType.all.map AgentType.name)}", s!"{path}.agent.type"⟩]
    let policy ← (s.policyErrors index names).mapM fun e => do
      return ⟨s!"Step '{name}': {← e.refusal}", s!"{path}.on_failure"⟩
    return unnamed ++ fields ++ agent ++ policy

end Step

/-- Errors of the steps from position `index` on. -/
def stepErrors (names : List String) : Nat → List Step → Except Fault (List DefinitionError)
  | _, [] => return []
  | index, s :: steps => return (← s.errors index names) ++ (← stepErrors names (index + 1) steps)

/-- Everything that is wrong with a workflow. -/
def Workflow.errors (w : Workflow) : Except Fault (List DefinitionError) :=
  if w.steps.isEmpty then return [⟨s!"Workflow '{w.name}' has no steps", "steps"⟩]
  else stepErrors w.stepNames 0 w.steps

/-- Refuse a workflow with errors. -/
def Workflow.check (w : Workflow) : Except Fault Unit := do
  match ← w.errors with
  | [] => return ()
  | es => throw (.definition es)

end StepFlow
