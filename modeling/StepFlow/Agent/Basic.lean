import StepFlow.Agent.CommandTemplate
import StepFlow.Settings.Basic

/-!
# Agents

An agent answers prompts. Some are programs driven through a `CommandTemplate`: the context, if there
is any, goes before the prompt, and the answer is what the program prints. Another is a chat service
that takes messages.

## Main definitions

* `Agent`, `Agent.answer`
* `Settings.createAgent` — the agent for a choice, with the key that it needs
-/

namespace StepFlow

/-- A question to an agent. -/
structure AgentRequest where
  prompt : String
  context : Option String := none
  systemPrompt : Option String := none
  deriving Repr, Inhabited

/-- The answer of an agent. -/
structure AgentResponse where
  content : String
  usage : Option TokenUsage := none
  deriving Repr, Inhabited

/-- An agent that is a program. -/
structure ProgramAgent where
  choice : AgentChoice
  template : CommandTemplate
  /-- Variables added to the environment of the program. -/
  env : Fields String := []
  timeout : Value := .null
  deriving Repr, Inhabited

/-- An agent. -/
inductive Agent where
  | program (a : ProgramAgent)
  /-- The client of Claude, which also takes a system prompt. -/
  | claude (a : ProgramAgent)
  | openai (choice : AgentChoice)
  deriving Repr, Inhabited

/-- Text that is there and not empty. -/
def nonEmpty? (s : Option String) : Option String :=
  s.filter (· ≠ "")

theorem nonEmpty?_eq_none_iff {o : Option String} :
    nonEmpty? o = none ↔ o = none ∨ o = some "" := by
  cases o <;> simp [nonEmpty?]

theorem nonEmpty?_eq_some_iff {o : Option String} {text : String} :
    nonEmpty? o = some text ↔ o = some text ∧ text ≠ "" := by
  cases o <;> simp [nonEmpty?, Option.filter_eq_some_iff]

/-! ### Programs -/

namespace ProgramAgent

/-- Parameters of the command line; a chosen model overrides the default one. -/
def params (a : ProgramAgent) : Fields String :=
  match nonEmpty? a.choice.model with
  | some m => Fields.set "model" m a.template.defaults
  | none => a.template.defaults

def model (a : ProgramAgent) : String :=
  (nonEmpty? a.choice.model).getD ((a.template.defaults.get? "model").getD "")

/-- The context, under a heading, and the prompt. -/
def composePrompt (r : AgentRequest) : String :=
  match nonEmpty? r.context with
  | some c => s!"Context:\n{c}\n\n{r.prompt}"
  | none => r.prompt

/-- What a program's end means as an answer. -/
def readReply (a : ProgramAgent) (program : String) : ProgramReply → Act AgentResponse
  | .exited stdout stderr code =>
    if code = 0 then return { content := Text.strip stdout }
    else throw (.agent (.exited a.template.name code (Text.strip stderr)))
  | .timedOut => do
    let t ← Act.ofExcept a.timeout.text
    throw (.agent (.timedOut a.template.name t))
  | .notFound => throw (.agent (.clientNotFound a.template.name program))
  | .notStarted reason => throw (.agent (.notStarted a.template.name reason))
  | .crashed reason => throw (.foreign "RuntimeError" reason)

/-- Ask the program, with further arguments after the template. -/
def answer (a : ProgramAgent) (extra : List String) (r : AgentRequest) : Act AgentResponse := do
  let prompt := composePrompt r
  let missing := a.template.missing a.params
  if !missing.isEmpty then throw (.agent (.missingPlaceholders a.template.name missing))
  let argv := a.template.build a.params prompt extra
  let env := Fields.setAll (← read).env a.env
  let stdin := if a.template.mode = .stdin then some prompt else none
  a.readReply (argv.headD "") (← Act.program ⟨argv, stdin, env, a.timeout⟩)

/-- A program agent, unless its template is malformed. -/
def make (choice : AgentChoice) (template : CommandTemplate) (env : Fields String)
    (timeout : Value) : Act ProgramAgent :=
  match template.errors with
  | [] => return ⟨choice, template, env, timeout⟩
  | errors => throw (.agent (.invalidTemplate errors))

end ProgramAgent

/-! ### Claude -/

def claudeTemplate : CommandTemplate where
  name := "claude"
  command := ["claude", "-p", "$\x7bPROMPT\x7d", "--model", "$\x7bmodel\x7d"]
  defaults := [("model", "claude-sonnet-4-5-20250929")]

/-- The Claude agent; the key, if there is one, is put into the environment of its client. -/
def Agent.makeClaude (choice : AgentChoice) (key : Option String) (timeout : Value) : Act Agent := do
  let env := match nonEmpty? key with
    | some k => [("ANTHROPIC_API_KEY", k)]
    | none => []
  return .claude (← ProgramAgent.make choice claudeTemplate env timeout)

/-- Arguments that pass a system prompt to the client of Claude. -/
def systemPromptArgs (r : AgentRequest) : List String :=
  match nonEmpty? r.systemPrompt with
  | some s => ["--append-system-prompt", s]
  | none => []

/-! ### The chat service -/

/-- The greatest number of tokens that a chat answer may have. -/
def maxTokens : Nat := 4096

/-- The temperature of agents whose choice gives none. -/
def defaultTemperature : Double := .ofDecimal false 7 (-1)

namespace OpenAI

def defaultModel : String := "gpt-4o"

def model (choice : AgentChoice) : String :=
  (nonEmpty? choice.model).getD defaultModel

def temperature (choice : AgentChoice) : Value :=
  match choice.temperature with
  | .null => .double defaultTemperature
  | t => t

/-- System prompt, context and prompt as messages. -/
def messages (r : AgentRequest) : List (String × String) :=
  (match nonEmpty? r.systemPrompt with
    | some s => [("system", s)]
    | none => [])
  ++ (match nonEmpty? r.context with
    | some c => [("user", s!"Context:\n{c}")]
    | none => [])
  ++ [("user", r.prompt)]

/-- The agent with a client that is set up already. -/
def withClient (choice : AgentChoice) : Act Agent := do
  Act.info s!"OpenAI agent initialized with model: {model choice}"
  return .openai choice

/-- The agent with a client of its own, which needs a key. -/
def make (choice : AgentChoice) (key : Option String) : Act Agent := do
  match nonEmpty? key with
  | none => throw (.agent .keyRequired)
  | some k =>
    Act.setUpClient k
    withClient choice

/-- Ask the chat service. -/
def answer (choice : AgentChoice) (r : AgentRequest) : Act AgentResponse := do
  match ← Act.chat ⟨model choice, messages r, maxTokens, temperature choice⟩ with
  | .answered content usage => return ⟨content.getD "", usage⟩
  | .failed reason => throw (.agent (.service reason))
  | .noChoices => throw (.outOfRange "list index out of range")
  | .crashed reason => throw (.foreign "RuntimeError" reason)

end OpenAI

/-! ### All agents -/

namespace Agent

def model : Agent → String
  | program a | claude a => a.model
  | openai choice => OpenAI.model choice

def choice : Agent → AgentChoice
  | program a | claude a => a.choice
  | openai choice => choice

/-- The temperature in effect. -/
def temperature (a : Agent) : Value := OpenAI.temperature a.choice

/-- Put a question to an agent. -/
def answer (r : AgentRequest) : Agent → Act AgentResponse
  | program a => a.answer [] r
  | claude a => a.answer (systemPromptArgs r) r
  | openai choice => OpenAI.answer choice r

end Agent

/-- The agent for a step's own choice, or for the default one. -/
def Settings.createAgent (s : Settings) (own : Option AgentChoice) : Act Agent := do
  let choice := s.agentInEffect own
  let env := (← read).env
  match AgentType.ofName? choice.type with
  | some .claude => Agent.makeClaude choice (s.apiKey env "anthropic") .null
  | some .openai => OpenAI.make choice (s.apiKey env "openai")
  | some .cursor => throw (.agentUnavailable "Cursor agent is not yet implemented")
  | none => throw (.agentUnavailable s!"Unknown agent type: {choice.type}")

end StepFlow
