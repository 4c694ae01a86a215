import StepFlow.Value.Basic

/-!
# Workflows

A workflow is a named sequence of steps. A step runs a shell command, asks an agent or waits for an
approval; it may declare what follows its failure. The types here hold a definition as it was
written down, before it is checked: `Step.type` may be any value, and `Step.onFailure` any
declaration.
-/

namespace StepFlow

/-- What a step does. -/
inductive StepType where
  | agent
  | command
  | approval
  deriving DecidableEq, Repr

namespace StepType

def name : StepType → String
  | agent => "agent"
  | command => "command"
  | approval => "human_approval"

/-- All step types, in the order of their names. -/
def all : List StepType := [.agent, .command, .approval]

/-- The step type of a given name. -/
def ofName? (s : String) : Option StepType :=
  all.find? (·.name == s)

end StepType

/-- The providers of agents. -/
inductive AgentType where
  | claude
  | cursor
  | openai
  deriving DecidableEq, Repr

namespace AgentType

def name : AgentType → String
  | claude => "claude"
  | cursor => "cursor"
  | openai => "openai"

/-- All agent types, in the order of their names. -/
def all : List AgentType := [.claude, .cursor, .openai]

/-- The agent type of a given name. -/
def ofName? (s : String) : Option AgentType :=
  all.find? (·.name == s)

end AgentType

/-- The choice of an agent. -/
structure AgentChoice where
  type : String
  /-- The model, if not the agent's own default. -/
  model : Option String := none
  /-- The sampling temperature, null if not given. -/
  temperature : Value := .null
  deriving Repr, Inhabited

/-- Material that is put before an agent along with its prompt. -/
structure ContextSpec where
  /-- Patterns of files whose contents are included. -/
  files : List String := []
  /-- Shell commands whose output is included. -/
  commands : List String := []
  /-- Variables that are listed with their values. -/
  vars : List (Value × Value) := []
  deriving Repr, Inhabited

def ContextSpec.isEmpty (c : ContextSpec) : Bool :=
  c.files.isEmpty && c.commands.isEmpty && c.vars.isEmpty

/-- One step of a workflow. -/
structure Step where
  name : String
  /-- The declared type; any value before the definition is checked. -/
  type : Value
  agent : Option AgentChoice := none
  command : Option String := none
  context : Option ContextSpec := none
  prompt : Option String := none
  onSuccess : Option String := none
  /-- The declared failure policy. -/
  onFailure : Value := .null
  /-- Seconds that a command may take, null for no limit. -/
  timeout : Value := .null
  deriving Repr, Inhabited

/-- What the step does, if its declared type is one. -/
def Step.type? (s : Step) : Option StepType :=
  match s.type with
  | .str t => StepType.ofName? t
  | _ => none

/-- A named sequence of steps. -/
structure Workflow where
  name : String
  steps : List Step
  description : Option String := none
  deriving Repr, Inhabited

/-- The names of the steps, in order. -/
def Workflow.stepNames (w : Workflow) : List String :=
  w.steps.map (·.name)

end StepFlow
