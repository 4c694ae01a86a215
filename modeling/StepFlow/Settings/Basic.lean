import StepFlow.Fields
import StepFlow.World

/-!
# Settings

What holds for all workflows of a user: the agent of steps that declare none, the keys of the
providers, the log level and the directory of run logs.
-/

namespace StepFlow

/-- Settings of a user. -/
structure Settings where
  defaultAgent : Option AgentChoice := none
  /-- Keys by provider. -/
  apiKeys : Fields String := []
  logLevel : String := "info"
  logDir : Option String := none
  deriving Repr, Inhabited

namespace Settings

/-- The providers that take a key, each with the variable of the environment that holds one. -/
def keyVariables : Fields String :=
  [("anthropic", "ANTHROPIC_API_KEY"), ("openai", "OPENAI_API_KEY")]

/-- The key of a provider: the one in the environment unless that is empty, else the one in the
settings. -/
def apiKey (s : Settings) (env : Fields String) (provider : String) : Option String :=
  match (keyVariables.get? provider).bind env.get? with
  | some key => if key = "" then s.apiKeys.get? provider else some key
  | none => s.apiKeys.get? provider

/-- The agent in effect for a step: its own, else the default, else Claude. -/
def agentInEffect (s : Settings) (own : Option AgentChoice) : AgentChoice :=
  (own.orElse fun _ => s.defaultAgent).getD { type := AgentType.claude.name }

end Settings

end StepFlow
