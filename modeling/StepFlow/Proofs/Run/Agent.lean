import StepFlow.Proofs.Agent.Creation
import StepFlow.Proofs.Run.Attempt
import StepFlow.Proofs.Run.Context
import StepFlow.Proofs.Run.Shell

/-!
# Agent steps

An attempt of an agent step goes through stages, and each of them is reached only if the one before
has come to an end: the agent is created, the context is built, the prompt is resolved, the agent is
asked. What has been done before a stage fails stays done, and nothing is done after it. So wherever
an attempt fails, the calls that it has made are known, and so is the error that it leaves.

An agent that cannot be created and one that cannot answer leave an error of the agent, with its
type: that of the step, or else the default one, or else Claude. A context that cannot be built and a
prompt that cannot be resolved are faults that the step does not expect.

## Main definitions

* `Step.promptMissing`, `Step.agentError` — the failures of an agent step
* `Step.creation`, `Step.building`, `Step.answering` — the stages of an attempt that do something
* `Step.AgentAttempt` — what an attempt of an agent step does, and what it comes to

## Main results

* `Step.buildContext_cases` — the calls that are made for a context
* `Step.execute_agent` — every attempt of an agent step is classified
-/

namespace StepFlow

open Act

/-! ### Contexts of steps -/

namespace Step

/-- The commands in the context of a step. -/
def contextCommands (s : Step) : List String :=
  (s.context.map (·.commands)).getD []

/-- The context of a step is not built, for a certain reason, and some commands have been run. The
files are those of the workspace, as they stand in a tree. -/
def Stops (s : Step) (t : FileTree) (scope : Scope) (out : Surroundings) (e : Fault)
    (calls : List String) : Prop :=
  ∃ c, s.context = some c ∧ c.Stops ⟨out.workspace, defaultIgnored⟩ t scope out e calls

open ContextSpec (callsOf)

/-- The calls that are made for the context of a step, whatever becomes of it. -/
theorem buildContext_cases (s : Step) (scope : Scope) (out : Surroundings) (w : World) :
    (∃ text w' commands, (buildContext s.context scope).perform out w = (.ok text, w') ∧
      Template.resolveAll scope s.contextCommands = .ok commands ∧
      w'.events = w.events ++ callsOf commands) ∨
    ∃ e w' calls, (buildContext s.context scope).perform out w = (.error e, w') ∧
      s.Stops w.files scope out e calls ∧ w'.events = w.events ++ callsOf calls := by
  unfold contextCommands Stops
  cases s.context with
  | none => exact .inl ⟨"", w, [], rfl, rfl, (List.append_nil _).symm⟩
  | some c =>
    rw [buildContext, perform_bind_of_ok (perform_read out w)]
    rcases c.build_cases ⟨out.workspace, defaultIgnored⟩ scope out w with
      hbuilt | ⟨e, w', calls, hbuild, hstops, hcalls⟩
    · exact .inl hbuilt
    · exact .inr ⟨e, w', calls, hbuild, ⟨c, rfl, hstops⟩, hcalls⟩

/-! ### Stages -/

/-- What an agent step without a prompt comes to. -/
def promptMissing (s : Step) : StepError where
  type := "missing_prompt"
  message := s!"Agent step '{s.name}' requires a prompt"
  context := .ofFields []

/-- The failure of an agent: what has gone wrong, and the type of the agent in effect. -/
def agentError (s : Step) (settings : Settings) (e : Fault) : StepError where
  type := "agent_error"
  message := e.message
  context := .ofFields [("agent", .str (settings.agentInEffect s.agent).type)]

section

variable (s : Step) (settings : Settings) (scope : Scope) (out : Surroundings) (w : World)

/-- The agent of an attempt, and the world in which it has been created. The clock has been read
before. -/
def creation : Except Fault Agent × World :=
  (settings.createAgent s.agent).perform out w.ticked

/-- The context of an attempt, and the world in which it has been built. -/
def building : Except Fault String × World :=
  (buildContext s.context scope).perform out (s.creation settings out w).2

/-- The answer of the agent of an attempt, and the world in which it has been given. -/
def answering (agent : Agent) (context prompt : String) : Except Fault AgentResponse × World :=
  (agent.answer { prompt, context := some context }).perform out (s.building settings scope out w).2

end

variable {s : Step} {settings : Settings} {scope : Scope} {out : Surroundings} {w : World}

theorem perform_askAgent_of_promptless (h : s.prompt = none ∨ s.prompt = some "")
    (settings : Settings) (scope : Scope) (out : Surroundings) (w : World) :
    (s.askAgent settings scope).perform out w = (.ok (.error s.promptMissing), w) := by
  rw [askAgent, nonEmpty?_eq_none_iff.mpr h]
  rfl

section

variable {template context prompt : String} {agent : Agent} {e : Fault}
  (hprompt : s.prompt = some template) (hne : template ≠ "")
include hprompt hne

theorem perform_askAgent_of_agentless (hagent : (s.creation settings out w).1 = .error e) :
    (s.askAgent settings scope).perform out w.ticked =
      (.ok (.error (s.agentError settings e)), (s.creation settings out w).2) := by
  have hcreate : (settings.createAgent s.agent).perform out w.ticked =
      (.error e, (s.creation settings out w).2) := Prod.ext hagent rfl
  rw [askAgent, nonEmpty?_eq_some_iff.mpr ⟨hprompt, hne⟩]
  exact perform_bind_of_ok (perform_attempt_ok_iff.mpr hcreate) _

/-- An agent that has been created is asked with the context and the resolved prompt, if there are
any. -/
theorem perform_askAgent_of_agent (hagent : (s.creation settings out w).1 = .ok agent) :
    (s.askAgent settings scope).perform out w.ticked =
      (do
        let context ← buildContext s.context scope
        let prompt ← Act.ofExcept (Template.resolve scope template)
        match ← Act.attempt (agent.answer { prompt, context := some context }) with
        | .error e => return s.agentFailure settings e
        | .ok response =>
          if let some u := response.usage then
            Act.info s!"Step '{s.name}': {u.input} input / {u.output} output tokens"
          return .ok response.content : Act Outcome).perform out (s.creation settings out w).2 := by
  have hcreate : (settings.createAgent s.agent).perform out w.ticked =
      (.ok agent, (s.creation settings out w).2) := Prod.ext hagent rfl
  rw [askAgent, nonEmpty?_eq_some_iff.mpr ⟨hprompt, hne⟩]
  exact perform_bind_of_ok (perform_attempt_ok_iff.mpr hcreate) _

theorem perform_askAgent_of_unbuilt (hagent : (s.creation settings out w).1 = .ok agent)
    (hbuild : (s.building settings scope out w).1 = .error e) :
    (s.askAgent settings scope).perform out w.ticked =
      (.error e, (s.building settings scope out w).2) := by
  rw [perform_askAgent_of_agent hprompt hne hagent]
  exact perform_bind_of_error (Prod.ext hbuild rfl) _

theorem perform_askAgent_of_unresolved (hagent : (s.creation settings out w).1 = .ok agent)
    (hbuild : (s.building settings scope out w).1 = .ok context)
    (hresolve : Template.resolve scope template = .error e) :
    (s.askAgent settings scope).perform out w.ticked =
      (.error e, (s.building settings scope out w).2) := by
  have hbuilt : (buildContext s.context scope).perform out (s.creation settings out w).2 =
      (.ok context, (s.building settings scope out w).2) := Prod.ext hbuild rfl
  rw [perform_askAgent_of_agent hprompt hne hagent, perform_bind_of_ok hbuilt, hresolve]
  exact perform_bind_of_error (perform_throw e out _) _

/-- What an answer means for its step. -/
def outcomeOf (s : Step) (settings : Settings) : Except Fault AgentResponse → Outcome
  | .ok response => .ok response.content
  | .error e => .error (s.agentError settings e)

theorem perform_askAgent_of_asked (hagent : (s.creation settings out w).1 = .ok agent)
    (hbuild : (s.building settings scope out w).1 = .ok context)
    (hresolve : Template.resolve scope template = .ok prompt) :
    ∃ w', (s.askAgent settings scope).perform out w.ticked =
        (.ok (s.outcomeOf settings (s.answering settings scope out w agent context prompt).1), w') ∧
      (s.answering settings scope out w agent context prompt).2.Logged w' := by
  have hbuilt : (buildContext s.context scope).perform out (s.creation settings out w).2 =
      (.ok context, (s.building settings scope out w).2) := Prod.ext hbuild rfl
  have hattempt : (Act.attempt (agent.answer { prompt, context := some context })).perform out
      (s.building settings scope out w).2 =
        (.ok (s.answering settings scope out w agent context prompt).1,
          (s.answering settings scope out w agent context prompt).2) := rfl
  rw [perform_askAgent_of_agent hprompt hne hagent, perform_bind_of_ok hbuilt, hresolve,
    perform_bind_of_ok (perform_ofExcept (.ok prompt) out _), perform_bind_of_ok hattempt]
  cases (s.answering settings scope out w agent context prompt).1 with
  | error e => exact ⟨_, rfl, .refl _⟩
  | ok response =>
    dsimp only
    cases response.usage with
    | none => exact ⟨_, rfl, .refl _⟩
    | some u => exact ⟨_, rfl, _, rfl⟩

end

/-! ### Attempts -/

/-- A step has a prompt. -/
def HasPrompt (s : Step) : Prop := ∃ template, s.prompt = some template ∧ template ≠ ""

/-- What becomes of the prompt of a step when it is resolved. A step without a prompt has none. -/
def PromptResolves (s : Step) (scope : Scope) (resolved : Except Fault String) : Prop :=
  ∃ template, s.prompt = some template ∧ template ≠ "" ∧
    Template.resolve scope template = resolved

/-- What an attempt of an agent step does, and the result that it leaves. -/
structure AgentAttempt (s : Step) (settings : Settings) (scope : Scope) (out : Surroundings)
    (w : World) (x : StepResult) (w' : World) : Prop where
  success_iff : x.success = true ↔ x.error = none
  output_of_failure : x.success = false → x.output = ""
  /-- Without a prompt, nothing is done but to read the clock and to log the failure. -/
  promptless : s.prompt = none ∨ s.prompt = some "" →
    x.error = some s.promptMissing ∧ w.ticked.ticked.Logged w'
  /-- Nothing is done either when the agent cannot be created. -/
  agentless : ∀ e, s.HasPrompt → (s.creation settings out w).1 = .error e →
    x.error = some (s.agentError settings e) ∧ w.ticked.ticked.Logged w'
  /-- After the agent has been created, commands of the context are run, in their order and as they
  have been resolved. If the context cannot be built, the agent is not asked. -/
  unbuilt : ∀ agent e, s.HasPrompt → (s.creation settings out w).1 = .ok agent →
    (s.building settings scope out w).1 = .error e →
    x.error = some (unexpected e) ∧ ∃ setUp calls,
      settings.Provides out.env (settings.agentInEffect s.agent) agent setUp ∧
      s.Stops (s.creation settings out w).2.files scope out e calls ∧
      w'.events = w.events ++ setUp ++ callsOf calls
  /-- All commands of the context have been run if it has been built. If the prompt cannot be
  resolved then, the agent is not asked. -/
  unresolved : ∀ agent context e, (s.creation settings out w).1 = .ok agent →
    (s.building settings scope out w).1 = .ok context → s.PromptResolves scope (.error e) →
    x.error = some (unexpected e) ∧ ∃ setUp commands,
      settings.Provides out.env (settings.agentInEffect s.agent) agent setUp ∧
      Template.resolveAll scope s.contextCommands = .ok commands ∧
      w'.events = w.events ++ setUp ++ callsOf commands
  /-- Otherwise the agent is asked once, with the text of the context and the resolved prompt. -/
  asked : ∀ agent context prompt, (s.creation settings out w).1 = .ok agent →
    (s.building settings scope out w).1 = .ok context → s.PromptResolves scope (.ok prompt) →
    ∃ setUp commands,
      settings.Provides out.env (settings.agentInEffect s.agent) agent setUp ∧
      Template.resolveAll scope s.contextCommands = .ok commands ∧
      w'.events = w.events ++ setUp ++ callsOf commands ++
        [agent.question out.env { prompt, context := some context }]
  /-- What it answers is the output. -/
  answered : ∀ agent context prompt response, (s.creation settings out w).1 = .ok agent →
    (s.building settings scope out w).1 = .ok context → s.PromptResolves scope (.ok prompt) →
    (s.answering settings scope out w agent context prompt).1 = .ok response →
    x.error = none ∧ x.output = response.content
  /-- If it gives no answer, the attempt has failed, whatever the reason may be. -/
  refused : ∀ agent context prompt e, (s.creation settings out w).1 = .ok agent →
    (s.building settings scope out w).1 = .ok context → s.PromptResolves scope (.ok prompt) →
    (s.answering settings scope out w agent context prompt).1 = .error e →
    x.error = some (s.agentError settings e)

/-- Nothing has been done for an agent that could not be created. -/
theorem creation_nothing {e : Fault} (h : (s.creation settings out w).1 = .error e) :
    (s.creation settings out w).2 = w.ticked := by
  rcases settings.createAgent_cases s.agent out w.ticked with
    ⟨e', hcreate⟩ | ⟨agent, setUp, w₁, hcreate, -⟩
  · rw [creation, hcreate]
  · rw [creation, hcreate] at h
    cases h

/-- The agent that has been created, and the calls made by then. -/
theorem creation_provides {agent : Agent} (h : (s.creation settings out w).1 = .ok agent) :
    ∃ setUp, settings.Provides out.env (settings.agentInEffect s.agent) agent setUp ∧
      (s.creation settings out w).2.events = w.events ++ setUp := by
  rcases settings.createAgent_cases s.agent out w.ticked with
    ⟨e, hcreate⟩ | ⟨agent', setUp, w₁, hcreate, hprovides, hevents, -⟩
  · rw [creation, hcreate] at h
    cases h
  · rw [creation, hcreate] at h ⊢
    cases h
    exact ⟨setUp, hprovides, hevents⟩

/-- The context that has been built, and the calls made by then. -/
theorem building_calls {context : String}
    (h : (s.building settings scope out w).1 = .ok context) :
    ∃ commands, Template.resolveAll scope s.contextCommands = .ok commands ∧
      (s.building settings scope out w).2.events =
        (s.creation settings out w).2.events ++ callsOf commands := by
  rcases s.buildContext_cases scope out (s.creation settings out w).2 with
    ⟨text, w₁, commands, hbuild, hresolve, hcalls⟩ | ⟨e, w₁, calls, hbuild, -⟩
  · rw [building, hbuild]
    exact ⟨commands, hresolve, hcalls⟩
  · rw [building, hbuild] at h
    cases h

/-- Why a context has not been built, and the calls made by then. -/
theorem building_stops {e : Fault} (h : (s.building settings scope out w).1 = .error e) :
    ∃ calls, s.Stops (s.creation settings out w).2.files scope out e calls ∧
      (s.building settings scope out w).2.events =
        (s.creation settings out w).2.events ++ callsOf calls := by
  rcases s.buildContext_cases scope out (s.creation settings out w).2 with
    ⟨text, w₁, commands, hbuild, -⟩ | ⟨e', w₁, calls, hbuild, hstops, hcalls⟩
  · rw [building, hbuild] at h
    cases h
  · rw [building, hbuild] at h ⊢
    cases h
    exact ⟨calls, hstops, hcalls⟩

/-- An agent that has been created is asked once. -/
theorem answering_asks {agent : Agent} {setUp : List Event} {context prompt : String}
    (h : settings.Provides out.env (settings.agentInEffect s.agent) agent setUp) :
    (s.answering settings scope out w agent context prompt).2.events =
      (s.building settings scope out w).2.events ++
        [agent.question out.env { prompt, context := some context }] := by
  obtain ⟨answer, hanswer⟩ := h.perform_answer { prompt, context := some context }
    (s.building settings scope out w).2
  rw [answering, hanswer]

/-- **Every attempt of an agent step is classified.** It leaves a result, with the name and the
position of the step and the number of the attempt. -/
theorem execute_agent (h : s.type? = some .agent) (settings : Settings) (scope : Scope)
    (index number : Nat) (out : Surroundings) (w : World) :
    ∃ x w', (s.execute settings scope index number).perform out w = (.ok x, w') ∧
      x.name = s.name ∧ x.index = index ∧ x.attempt = number ∧
      s.AgentAttempt settings scope out w x w' := by
  obtain ⟨x, w', hx, hname, hindex, hnumber, hshows, hlogged⟩ :=
    perform_execute h settings scope index number out w
  refine ⟨x, w', hx, hname, hindex, hnumber, ?_⟩
  change x.Shows ((s.askAgent settings scope).perform out w.ticked).1 at hshows
  change ((s.askAgent settings scope).perform out w.ticked).2.ticked.Logged w' at hlogged
  have hevents : w'.events = ((s.askAgent settings scope).perform out w.ticked).2.events := by
    obtain ⟨lines, rfl⟩ := hlogged
    rfl
  exact {
    success_iff := Option.isNone_iff_eq_none
    output_of_failure := hshows.output_eq_empty
    promptless := fun hprompt => by
      rw [perform_askAgent_of_promptless hprompt settings scope out w.ticked] at hshows hlogged
      exact ⟨hshows.1, hlogged⟩
    agentless := fun e ⟨template, hprompt, hne⟩ hagent => by
      rw [perform_askAgent_of_agentless hprompt hne hagent] at hshows hlogged
      rw [creation_nothing hagent] at hlogged
      exact ⟨hshows.1, hlogged⟩
    unbuilt := fun agent e ⟨template, hprompt, hne⟩ hagent hbuild => by
      rw [perform_askAgent_of_unbuilt hprompt hne hagent hbuild] at hshows hevents
      obtain ⟨setUp, hprovides, hcreated⟩ := creation_provides hagent
      obtain ⟨calls, hstops, hcalls⟩ := building_stops hbuild
      exact ⟨hshows.1, setUp, calls, hprovides, hstops, by rw [hevents, hcalls, hcreated]⟩
    unresolved := fun agent context e hagent hbuild ⟨template, hprompt, hne, hresolve⟩ => by
      rw [perform_askAgent_of_unresolved hprompt hne hagent hbuild hresolve] at hshows hevents
      obtain ⟨setUp, hprovides, hcreated⟩ := creation_provides hagent
      obtain ⟨commands, hcommands, hcalls⟩ := building_calls hbuild
      exact ⟨hshows.1, setUp, commands, hprovides, hcommands, by rw [hevents, hcalls, hcreated]⟩
    asked := fun agent context prompt hagent hbuild ⟨template, hprompt, hne, hresolve⟩ => by
      obtain ⟨w₁, hask, lines, rfl⟩ := perform_askAgent_of_asked hprompt hne hagent hbuild hresolve
      rw [hask] at hevents
      obtain ⟨setUp, hprovides, hcreated⟩ := creation_provides hagent
      obtain ⟨commands, hcommands, hcalls⟩ := building_calls hbuild
      refine ⟨setUp, commands, hprovides, hcommands, hevents.trans ?_⟩
      rw [← hcreated, ← hcalls]
      exact answering_asks hprovides
    answered := fun agent context prompt response hagent hbuild ⟨template, hprompt, hne, hresolve⟩
        hanswer => by
      obtain ⟨w₁, hask, -⟩ := perform_askAgent_of_asked hprompt hne hagent hbuild hresolve
      rw [hask, hanswer] at hshows
      exact hshows
    refused := fun agent context prompt e hagent hbuild ⟨template, hprompt, hne, hresolve⟩
        hanswer => by
      obtain ⟨w₁, hask, -⟩ := perform_askAgent_of_asked hprompt hne hagent hbuild hresolve
      rw [hask, hanswer] at hshows
      exact hshows.1 }

end Step

/-- A step that has Claude look at what a command writes. -/
def Step.looking : Step where
  name := "look"
  type := .str "agent"
  context := some { commands := ["uptime"] }
  prompt := some "After $previous_output: well?"

theorem Step.execute_agent_looking :
    looking.type? = some .agent ∧
      ∃ x w', (looking.execute {} ⟨"", [("brew", "tea")], []⟩ 1 1).perform (.writing "up\n") {} =
          (.ok x, w') ∧
        ∃ question, w'.events = [.shell ⟨"uptime", .null⟩, .program question] ∧
          question.argv = ["claude", "-p",
            "Context:\n=== Command Output ===\n$ uptime\nup\n\n\n\nAfter tea: well?",
            "--model", "claude-sonnet-4-5-20250929"] := by
  have htype : looking.type? = some .agent := rfl
  obtain ⟨x, w', hx, -, -, -, hattempt⟩ :=
    execute_agent htype {} ⟨"", [("brew", "tea")], []⟩ 1 1 (.writing "up\n") {}
  have hprompt : looking.PromptResolves ⟨"", [("brew", "tea")], []⟩ (.ok "After tea: well?") :=
    ⟨_, rfl, by decide, by decide⟩
  obtain ⟨setUp, commands, hprovides, hcommands, hevents⟩ := hattempt.asked
    (.claude ⟨{ type := "claude" }, claudeTemplate, [], .null⟩)
    "=== Command Output ===\n$ uptime\nup\n\n" _ rfl (by rfl) hprompt
  obtain rfl : ["uptime"] = commands := Except.ok.inj hcommands
  cases hprovides
  exact ⟨htype, x, w', hx, _, hevents, by decide⟩

end StepFlow
