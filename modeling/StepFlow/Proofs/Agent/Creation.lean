import StepFlow.Proofs.Agent.Filling
import StepFlow.Proofs.Fields

/-!
# Agents that are created

Creating an agent calls nobody. It fails without doing anything, or it gives an agent for the choice
in effect; for the chat service a client has been set up by then. An agent that has been created can
always be asked: its client is started, or the service is called, once for each question. Whatever
comes of that is the answer, or the fault that stands for it.

The prompt is an argument of the client by itself, and it has the context before it under a heading.
Nothing in either of them can change the other arguments.

## Main definitions

* `Settings.Provides` — the agent for a choice, and what it takes to set it up
* `Agent.question` — the call by which an agent is asked

## Main results

* `Settings.createAgent_cases` — what becomes of creating an agent
* `ProgramAgent.build_claude` — the command line of the client
* `Settings.Provides.perform_answer` — an agent that has been created is asked once
-/

namespace StepFlow

open Act

/-! ### The client of Claude -/

namespace ProgramAgent

variable {a : ProgramAgent}

/-- The model in effect is always among the parameters. -/
theorem get?_params_model (h : a.template = claudeTemplate) :
    a.params.get? "model" = some a.model := by
  unfold params model
  rw [h]
  cases nonEmpty? a.choice.model with
  | none => rfl
  | some m => exact Fields.get?_set _ _ _ _

theorem missing_claude (h : a.template = claudeTemplate) : a.template.missing a.params = [] := by
  have hmodel := get?_params_model h
  rw [CommandTemplate.missing_eq_nil_iff, h]
  have honly : ∀ token ∈ claudeTemplate.command,
      ∀ name ∈ CommandTemplate.parameterNames token, name = "model" := by decide
  intro token htoken name hname
  rw [honly token htoken name hname, hmodel]
  exact Option.some_ne_none _

/-- **The command line of the client.** The prompt and the model are arguments of their own, whatever
they may be. -/
theorem build_claude (h : a.template = claudeTemplate) (prompt : String) (extra : List String) :
    a.template.build a.params prompt extra =
      ["claude", "-p", prompt, "--model", a.model] ++ extra := by
  have hmodel := get?_params_model h
  rw [h, CommandTemplate.build]
  congr 1
  have hplain {token : String} (hnames : CommandTemplate.parameterNames token = [])
      (hasks : CommandTemplate.asksPrompt token = false) :
      claudeTemplate.fillToken a.params prompt token = token := by
    rw [CommandTemplate.fillToken, hnames, hasks]
    exact String.ofList_toList
  have hprompt : claudeTemplate.fillToken a.params prompt "$\x7bPROMPT\x7d" = prompt := by
    have hnames : CommandTemplate.parameterNames "$\x7bPROMPT\x7d" = [] := by decide
    have hmark : "$\x7bPROMPT\x7d".toList = CommandTemplate.promptMark := by decide
    rw [CommandTemplate.fillToken, hnames, List.foldl_nil, hmark,
      if_pos (by decide), Text.replaceAll_self (by decide)]
    exact String.ofList_toList
  have hfilled : claudeTemplate.fillToken a.params prompt "$\x7bmodel\x7d" = a.model := by
    have hnames : CommandTemplate.parameterNames "$\x7bmodel\x7d" = ["model"] := by decide
    have hmark : "$\x7bmodel\x7d".toList = Template.variableMark "model".toList := by decide
    rw [CommandTemplate.fillToken, hnames, List.foldl_cons, List.foldl_nil,
      CommandTemplate.fillParameter, hmodel, hmark, if_neg (by decide)]
    dsimp only
    rw [Text.replaceAll_self (by decide)]
    exact String.ofList_toList
  change [_, _, _, _, _] = _
  rw [hplain (by decide) (by decide), hplain (by decide) (by decide), hprompt,
    hplain (by decide) (by decide), hfilled]

end ProgramAgent

/-! ### Creating agents -/

namespace Settings

/-- The variables that the client of Claude gets in its environment. -/
def claudeEnv (s : Settings) (env : Fields String) : Fields String :=
  match nonEmpty? (s.apiKey env "anthropic") with
  | some key => [("ANTHROPIC_API_KEY", key)]
  | none => []

/-- The agent that is provided for a choice, and what it takes to set it up. -/
inductive Provides (s : Settings) (env : Fields String) (choice : AgentChoice) :
    Agent → List Event → Prop
  | claude : AgentType.ofName? choice.type = some .claude →
      Provides s env choice (.claude ⟨choice, claudeTemplate, s.claudeEnv env, .null⟩) []
  /-- The chat service needs a key, with which a client is set up. -/
  | openai {key : String} : AgentType.ofName? choice.type = some .openai →
      s.apiKey env "openai" = some key → key ≠ "" →
      Provides s env choice (.openai choice) [.chatClient (some key)]

/-- **Creating an agent fails without doing anything, or it provides one** for the choice in effect. -/
theorem createAgent_cases (s : Settings) (own : Option AgentChoice) (out : Surroundings)
    (w : World) :
    (∃ e, (s.createAgent own).perform out w = (.error e, w)) ∨
      ∃ agent setUp w', (s.createAgent own).perform out w = (.ok agent, w') ∧
        s.Provides out.env (s.agentInEffect own) agent setUp ∧
        w'.events = w.events ++ setUp ∧ w'.files = w.files := by
  rw [createAgent, perform_bind_of_ok (perform_read out w)]
  cases htype : AgentType.ofName? (s.agentInEffect own).type with
  | none => exact .inl ⟨_, rfl⟩
  | some type =>
    cases type with
    | claude =>
      exact .inr ⟨_, [], w, rfl, .claude htype, (List.append_nil _).symm, rfl⟩
    | cursor => exact .inl ⟨_, rfl⟩
    | openai =>
      dsimp only
      rw [OpenAI.make]
      cases hkey : nonEmpty? (s.apiKey out.env "openai") with
      | none => exact .inl ⟨_, rfl⟩
      | some key =>
        obtain ⟨hsome, hne⟩ := nonEmpty?_eq_some_iff.mp hkey
        cases hclient : out.chatClient w.events key with
        | some reason =>
          exact .inl ⟨_, perform_bind_of_error (perform_setUpClient_of_refused hclient) _⟩
        | none =>
          exact .inr ⟨_, _, _, perform_bind_of_ok (perform_setUpClient hclient) _,
            .openai htype hsome hne, rfl, rfl⟩

end Settings

/-! ### Asking agents -/

/-- The call by which an agent is asked. -/
def Agent.question (env : Fields String) (r : AgentRequest) : Agent → Event
  | .program a => .program (a.call [] r env)
  | .claude a => .program {
      argv :=
        ["claude", "-p", ProgramAgent.composePrompt r, "--model", a.model] ++ systemPromptArgs r
      stdin := none
      env := Fields.setAll env a.env
      timeout := a.timeout }
  | .openai choice =>
    .chat ⟨OpenAI.model choice, OpenAI.messages r, maxTokens, OpenAI.temperature choice⟩

/-- The chat service is asked once. -/
theorem OpenAI.perform_answer (choice : AgentChoice) (r : AgentRequest) (out : Surroundings)
    (w : World) :
    ∃ answer, (OpenAI.answer choice r).perform out w =
      (answer, { w with
        events := w.events ++ [(Agent.openai choice).question out.env r] }) := by
  rw [answer, perform_bind_of_ok (perform_chat _ out w)]
  cases out.chat w.events _ <;> exact ⟨_, rfl⟩

/-- **An agent that has been created is asked once.** -/
theorem Settings.Provides.perform_answer {s : Settings} {choice : AgentChoice} {agent : Agent}
    {setUp : List Event} {out : Surroundings} (h : s.Provides out.env choice agent setUp)
    (r : AgentRequest) (w : World) :
    ∃ answer, (agent.answer r).perform out w =
      (answer, { w with events := w.events ++ [agent.question out.env r] }) := by
  cases h with
  | claude htype =>
    obtain ⟨answer, hanswer⟩ := ProgramAgent.perform_answer
      (ProgramAgent.missing_claude (a := ⟨choice, claudeTemplate, s.claudeEnv out.env, .null⟩) rfl)
      (systemPromptArgs r) r out w
    rw [ProgramAgent.call, ProgramAgent.build_claude rfl] at hanswer
    exact ⟨answer, hanswer⟩
  | openai htype hkey hne => exact OpenAI.perform_answer choice r out w

end StepFlow
