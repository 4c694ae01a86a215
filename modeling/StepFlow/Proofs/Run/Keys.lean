import StepFlow.Command.Perform
import StepFlow.Proofs.Run.Notices

/-!
# Keys and runs

The keys of the providers are secrets. A run needs them to set up agents, and they must not get
anywhere else: neither into results, error messages and contexts nor into log lines, files or the
run log, nor may they decide what a run does next.

What this means is a statement about two runs. Take settings that differ in the values of keys alone
and let the outside not look at keys either. Then the two runs cannot be told apart by anything but
the keys in two places: the environment of the client of Claude, and the key that a client of the
chat service is set up with.

## Two activities side by side

`Event.masked` makes a key unreadable, and `World.SameButKeys` says that two worlds are the same
with all keys masked. `Act.Alike S` compares two activities from such worlds: they both fail with
the same fault or both give values that are related by `S`, and leave worlds that are again the same
with keys masked. It is closed under sequencing, and an activity that does not know about keys is
alike to itself. Agents are the one kind of value that differs on the way, since they carry keys.

## Main definitions

* `Event.masked`, `World.SameButKeys` — what happened, with keys made unreadable
* `Surroundings.Keyless` — answers do not depend on keys
* `Act.Alike`, `Act.Blind` — two activities that agree but for keys
* `Settings.SameButKeys` — settings with keys for the same providers

## Main results

* `Settings.createAgent_alike` — agents for either settings
* `Step.execute_alike`, `Run.steps_alike` — an attempt, and the attempts of a run
* `Run.execute_keyless` — two runs that differ in keys alone
* `Command.runLogged_alike` — two runs with their run logs
-/

namespace StepFlow

open Act

/-! ### Keys made unreadable -/

/-- The variable that the client of Claude takes its key from. -/
def claudeKeyName : String := "ANTHROPIC_API_KEY"

/-- A value, or nothing in place of a key. -/
def maskedValue (name value : String) : String := if name = claudeKeyName then "" else value

/-- An environment with the key of Claude made unreadable. -/
def maskedEnv (env : Fields String) : Fields String :=
  env.map fun f => (f.1, maskedValue f.1 f.2)

def ProgramCall.masked (c : ProgramCall) : ProgramCall := { c with env := maskedEnv c.env }

/-- An event with its keys made unreadable. Whether there is a key can still be seen. -/
def Event.masked : Event → Event
  | .program call => .program call.masked
  | .chatClient (some _) => .chatClient (some "")
  | e => e

/-- Two worlds are the same but for the keys in their events. -/
def World.SameButKeys (w w' : World) : Prop :=
  ∃ events, events.map Event.masked = w.events.map Event.masked ∧ w' = { w with events := events }

@[refl] theorem World.SameButKeys.refl (w : World) : w.SameButKeys w := ⟨w.events, rfl, rfl⟩

theorem maskedEnv_set (name value : String) (env : Fields String) :
    maskedEnv (Fields.set name value env) =
      Fields.set name (maskedValue name value) (maskedEnv env) := by
  induction env with
  | nil => rfl
  | cons f env ih =>
    obtain ⟨n, v⟩ := f
    by_cases h : n = name
    · simp [Fields.set, maskedEnv, h]
    · simpa [Fields.set, maskedEnv, h] using ih

theorem maskedEnv_setAll (env new : Fields String) :
    maskedEnv (Fields.setAll env new) = Fields.setAll (maskedEnv env) (maskedEnv new) := by
  induction new generalizing env with
  | nil => rfl
  | cons f new ih =>
    have := ih (Fields.set f.1 f.2 env)
    rwa [maskedEnv_set] at this

/-- What the outside answers does not depend on keys. -/
structure Surroundings.Keyless (out : Surroundings) : Prop where
  shell : ∀ events files call, out.shell (events.map Event.masked) files call =
    out.shell events files call
  program : ∀ events call, out.program (events.map Event.masked) call.masked =
    out.program events call
  chat : ∀ events call, out.chat (events.map Event.masked) call = out.chat events call
  chatClient : ∀ events key key', out.chatClient (events.map Event.masked) key' =
    out.chatClient events key

/-! ### Activities that agree but for keys -/

/-- Both fail with the same fault, or both give values that are related. -/
inductive SameOutcome {α β : Type} (S : α → β → Prop) : Except Fault α → Except Fault β → Prop
  | ok {v : α} {v' : β} (h : S v v') : SameOutcome S (.ok v) (.ok v')
  | error (e : Fault) : SameOutcome S (.error e) (.error e)

theorem SameOutcome.eq {α : Type} {x y : Except Fault α} (h : SameOutcome Eq x y) : x = y := by
  cases h with
  | ok h => rw [h]
  | error e => rfl

namespace Act

variable {α α' β β' : Type} {S : α → α' → Prop} {T : β → β' → Prop}

/-- From worlds that are the same but for keys, two activities come to outcomes that are the same up
to `S`, and to worlds that are the same but for keys. -/
def Alike (S : α → α' → Prop) (a : Act α) (a' : Act α') : Prop :=
  ∀ out : Surroundings, out.Keyless → ∀ w w' : World, w.SameButKeys w' →
    SameOutcome S (a.perform out w).1 (a'.perform out w').1 ∧
      (a.perform out w).2.SameButKeys (a'.perform out w').2

/-- An activity does not depend on the keys in the world. -/
abbrev Blind (a : Act α) : Prop := Alike Eq a a

namespace Alike

theorem pure {v : α} {v' : α'} (h : S v v') : Alike S (Pure.pure v) (Pure.pure v') :=
  fun _ _ _ _ hw => ⟨.ok h, hw⟩

theorem throw (e : Fault) : Alike S (throw e) (MonadExcept.throw e) :=
  fun _ _ _ _ hw => ⟨.error e, hw⟩

theorem bind {a : Act α} {a' : Act α'} {f : α → Act β} {f' : α' → Act β'} (h : Alike S a a')
    (hf : ∀ v v', S v v' → Alike T (f v) (f' v')) : Alike T (a >>= f) (a' >>= f') := by
  intro out hout w w' hw
  obtain ⟨houtcome, hworld⟩ := h out hout w w' hw
  rw [perform_bind, perform_bind]
  rcases hrun : a.perform out w with ⟨x, w₁⟩
  rcases hrun' : a'.perform out w' with ⟨x', w₁'⟩
  rw [hrun, hrun'] at houtcome hworld
  cases houtcome with
  | ok hv => exact hf _ _ hv out hout _ _ hworld
  | error e => exact ⟨.error e, hworld⟩

/-- A sequence whose first part gives the same. -/
theorem seq {a a' : Act α} {f : α → Act β} {f' : α → Act β'} (h : Alike Eq a a')
    (hf : ∀ v, Alike T (f v) (f' v)) : Alike T (a >>= f) (a' >>= f') :=
  bind h fun v _ hv => hv ▸ hf v

theorem ofExcept (r : Except Fault α) : Blind (Act.ofExcept r) := by
  cases r with
  | ok v => exact pure rfl
  | error e => exact throw e

theorem attempt {a : Act α} {a' : Act α'} (h : Alike S a a') :
    Alike (SameOutcome S) (Act.attempt a) (Act.attempt a') :=
  fun out hout w w' hw => ⟨.ok (h out hout w w' hw).1, (h out hout w w' hw).2⟩

theorem attempt_eq {a a' : Act α} (h : Alike Eq a a') :
    Alike Eq (Act.attempt a) (Act.attempt a') :=
  fun out hout w w' hw => ⟨.ok (h out hout w w' hw).1.eq, (h out hout w w' hw).2⟩

theorem read : Alike (fun out out' => out = out' ∧ out.Keyless) read MonadReader.read :=
  fun _ hout _ _ hw => ⟨.ok ⟨rfl, hout⟩, hw⟩

theorem get : Alike World.SameButKeys get MonadState.get :=
  fun _ _ _ _ hw => ⟨.ok hw, hw⟩

/-- A sequence that begins with a look at the surroundings. -/
theorem seq_read {f : Surroundings → Act β} {f' : Surroundings → Act β'}
    (hf : ∀ out : Surroundings, out.Keyless → Alike T (f out) (f' out)) :
    Alike T (MonadReader.read >>= f) (MonadReader.read >>= f') :=
  bind read fun out _ hout => hout.1 ▸ hf out hout.2

/-- A sequence that begins with a look at the world. -/
theorem seq_get {f : World → Act β} {f' : World → Act β'}
    (hf : ∀ w events, events.map Event.masked = w.events.map Event.masked →
      Alike T (f w) (f' { w with events := events })) :
    Alike T (MonadState.get >>= f) (MonadState.get >>= f') := by
  refine bind get ?_
  rintro w _ ⟨events, hmasked, rfl⟩
  exact hf w events hmasked

theorem ite {c : Prop} [Decidable c] {a b : Act α} {a' b' : Act α'} (ha : c → Alike S a a')
    (hb : ¬c → Alike S b b') : Alike S (if c then a else b) (if c then a' else b') := by
  split
  · exact ha ‹c›
  · exact hb ‹¬c›

theorem forM {ι : Type} {xs : List ι} {f f' : ι → Act PUnit} (hf : ∀ x, Alike Eq (f x) (f' x)) :
    Alike Eq (xs.forM f) (xs.forM f') := by
  induction xs with
  | nil => exact pure rfl
  | cons x xs ih => exact seq (hf x) fun _ => ih

theorem mapM {ι : Type} {xs : List ι} {f f' : ι → Act α} (hf : ∀ x, Alike Eq (f x) (f' x)) :
    Alike Eq (xs.mapM f) (xs.mapM f') := by
  induction xs with
  | nil => exact pure rfl
  | cons x xs ih =>
    rw [List.mapM_cons, List.mapM_cons]
    exact seq (hf x) fun _ => seq ih fun _ => pure rfl

/-- A change of the world that has nothing to do with events. -/
theorem modify {f : World → World}
    (hf : ∀ (w : World) events, f { w with events := events } = { f w with events := events })
    (hevents : ∀ w, (f w).events = w.events) : Blind (modify f : Act Unit) := by
  rintro out - w _ ⟨events, hmasked, rfl⟩
  refine ⟨.ok rfl, events, ?_, hf w events⟩
  exact hmasked.trans (congrArg _ (hevents w).symm)

theorem record {e e' : Event} (h : e.masked = e'.masked) : Alike Eq (record e) (record e') := by
  rintro out - w _ ⟨events, hmasked, rfl⟩
  refine ⟨.ok rfl, events ++ [e'], ?_, rfl⟩
  simp [hmasked, h]

end Alike

/-! ### Single activities -/

theorem log_blind (severity : Severity) (message : String) : Blind (log severity message) :=
  .modify (fun _ _ => rfl) fun _ => rfl

theorem printLine_blind (line : String) : Blind (printLine line) :=
  .modify (fun _ _ => rfl) fun _ => rfl

theorem change_blind (c : Change) : Blind (change c) :=
  .modify (fun _ _ => rfl) fun _ => rfl

theorem now_blind : Blind now := by
  rintro out - w _ ⟨events, hmasked, rfl⟩
  exact ⟨.ok rfl, events, hmasked, rfl⟩

theorem shell_blind (call : ShellCall) : Blind (shell call) := by
  refine .seq_read fun out hout => .seq_get fun w events hmasked => .seq (.record rfl) fun _ => ?_
  rw [← hout.shell w.events, ← hmasked, hout.shell]
  exact .seq (.forM change_blind) fun _ => .pure rfl

theorem chat_blind (call : ChatCall) : Blind (chat call) := by
  refine .seq_read fun out hout => .seq_get fun w events hmasked => .seq (.record rfl) fun _ => ?_
  rw [← hout.chat w.events, ← hmasked, hout.chat]
  exact .pure rfl

/-- A program that is called with another key. -/
theorem program_alike {call call' : ProgramCall} (h : call.masked = call'.masked) :
    Alike Eq (program call) (program call') := by
  refine .seq_read fun out hout => .seq_get fun w events hmasked =>
    .seq (.record (congrArg Event.program h)) fun _ => ?_
  rw [← hout.program w.events, ← hmasked, h, hout.program]
  exact .pure rfl

/-- A client of the chat service that is set up with another key. -/
theorem setUpClient_alike (key key' : String) : Alike Eq (setUpClient key) (setUpClient key') := by
  refine .seq_read fun out hout => .seq_get fun w events hmasked => ?_
  have hsame : out.chatClient events key' = out.chatClient w.events key := by
    rw [← hout.chatClient events key' key', hmasked, hout.chatClient w.events key]
  dsimp only
  rw [hsame]
  cases out.chatClient w.events key with
  | some reason => exact .throw _
  | none => exact .record rfl

theorem sleep_blind (seconds : Double) : Blind (sleep seconds) := by
  refine .seq_read fun out _ => .seq_get fun w _ _ => ?_
  dsimp only
  cases out.sleep w.readings seconds with
  | some fault => exact .throw _
  | none => exact .record rfl

end Act

theorem runCommand_blind (command : String) (timeout : Value) :
    Blind (runCommand command timeout) :=
  .seq (shell_blind _) fun _ => .ofExcept _

/-! ### Contexts -/

theorem Collector.collect_blind (c : Collector) (patterns : List String) :
    Blind (c.collect patterns) := by
  refine .seq_get fun w _ _ => .seq (.forM fun _ => log_blind _ _) fun _ => ?_
  dsimp only
  cases (c.gather w.files patterns).fault with
  | some e => exact .throw e
  | none => exact .pure rfl

namespace ContextSpec

theorem filesPart_blind (c : ContextSpec) (collector : Collector) (scope : Scope) :
    Blind (c.filesPart collector scope) := by
  refine .ite (fun _ => .pure rfl) fun _ => .seq (.ofExcept _) fun patterns => ?_
  exact .seq (collector.collect_blind _) fun found => .ite (fun _ => .pure rfl) fun _ => .pure rfl

theorem commandBlock_blind (command : String) : Blind (commandBlock command) := by
  refine .seq (runCommand_blind _ _) fun r => .ite (fun _ => ?_) fun _ => ?_
  · exact .seq (log_blind _ _) fun _ => .pure rfl
  · exact .seq (.pure rfl) fun _ => .pure rfl

theorem commandsPart_blind (c : ContextSpec) (scope : Scope) : Blind (c.commandsPart scope) :=
  .ite (fun _ => .pure rfl) fun _ => .seq (.ofExcept _) fun _ =>
    .seq (.mapM commandBlock_blind) fun _ => .pure rfl

theorem build_blind (c : ContextSpec) (collector : Collector) (scope : Scope) :
    Blind (c.build collector scope) :=
  .seq (c.filesPart_blind _ _) fun _ => .seq (c.commandsPart_blind _) fun _ =>
    .seq (.ofExcept _) fun _ => .pure rfl

end ContextSpec

theorem buildContext_blind (c : Option ContextSpec) (scope : Scope) :
    Blind (buildContext c scope) := by
  cases c with
  | none => exact .pure rfl
  | some c =>
    exact .seq_read fun out _ => c.build_blind _ _

/-! ### Agents -/

/-- Two agents are the same but for the keys that they carry. -/
inductive Agent.SameButKeys : Agent → Agent → Prop
  | program (a : ProgramAgent) {env : Fields String} (h : maskedEnv a.env = maskedEnv env) :
    SameButKeys (.program a) (.program { a with env := env })
  | claude (a : ProgramAgent) {env : Fields String} (h : maskedEnv a.env = maskedEnv env) :
    SameButKeys (.claude a) (.claude { a with env := env })
  | openai (choice : AgentChoice) : SameButKeys (.openai choice) (.openai choice)

namespace ProgramAgent

theorem readReply_blind (a : ProgramAgent) (program : String) (reply : ProgramReply) :
    Blind (a.readReply program reply) := by
  cases reply with
  | exited stdout stderr code => exact .ite (fun _ => .pure rfl) fun _ => .throw _
  | timedOut => exact .seq (.ofExcept _) fun _ => .throw _
  | notFound => exact .throw _
  | notStarted reason => exact .throw _
  | crashed reason => exact .throw _

/-- What a program answers does not depend on its key. -/
theorem answer_alike (a : ProgramAgent) {env : Fields String} (h : maskedEnv a.env = maskedEnv env)
    (extra : List String) (r : AgentRequest) :
    Alike Eq (a.answer extra r) ({ a with env := env }.answer extra r) := by
  have ask (argv : List String) (stdin : Option String) : Alike Eq
      (do
        let env := Fields.setAll (← read).env a.env
        a.readReply (argv.headD "") (← Act.program ⟨argv, stdin, env, a.timeout⟩))
      (do
        let env := Fields.setAll (← read).env env
        a.readReply (argv.headD "") (← Act.program ⟨argv, stdin, env, a.timeout⟩)) := by
    refine .seq_read fun out _ => .seq (program_alike ?_) fun reply => a.readReply_blind _ reply
    simp [ProgramCall.masked, maskedEnv_setAll, h]
  exact .ite (fun _ => .seq (.throw _) fun _ => ask _ _) fun _ => ask _ _

end ProgramAgent

theorem OpenAI.answer_blind (choice : AgentChoice) (r : AgentRequest) :
    Blind (OpenAI.answer choice r) := by
  refine .seq (chat_blind _) fun reply => ?_
  cases reply with
  | answered content usage => exact .pure rfl
  | failed reason => exact .throw _
  | noChoices => exact .throw _
  | crashed reason => exact .throw _

theorem Agent.answer_alike {a a' : Agent} (h : a.SameButKeys a') (r : AgentRequest) :
    Alike Eq (a.answer r) (a'.answer r) := by
  cases h with
  | program a h => exact a.answer_alike h _ _
  | claude a h => exact a.answer_alike h _ _
  | openai choice => exact OpenAI.answer_blind _ _

/-! ### Settings -/

namespace Settings

/-- The settings hold a key of a provider. An empty one is none. -/
abbrev HasKey (s : Settings) (provider : String) : Prop :=
  (nonEmpty? (s.apiKeys.get? provider)).isSome

/-- Settings that differ in nothing but the values of keys. -/
structure SameButKeys (s s' : Settings) : Prop where
  defaultAgent : s'.defaultAgent = s.defaultAgent
  logLevel : s'.logLevel = s.logLevel
  logDir : s'.logDir = s.logDir
  keys : ∀ provider, s.HasKey provider ↔ s'.HasKey provider

variable {s s' : Settings}

/-- The key in effect, which may come from the environment, is there with either settings. -/
theorem SameButKeys.apiKey (h : s.SameButKeys s') (env : Fields String) (provider : String) :
    (nonEmpty? (s.apiKey env provider)).isSome ↔ (nonEmpty? (s'.apiKey env provider)).isSome := by
  unfold Settings.apiKey
  split
  · split
    · exact h.keys provider
    · exact Iff.rfl
  · exact h.keys provider

theorem SameButKeys.agentInEffect (h : s.SameButKeys s') (own : Option AgentChoice) :
    s'.agentInEffect own = s.agentInEffect own := by
  rw [Settings.agentInEffect, h.defaultAgent]
  rfl

/-- A key that is there with either settings, or with neither. -/
theorem both_or_neither {key key' : Option String}
    (h : (nonEmpty? key).isSome ↔ (nonEmpty? key').isSome) :
    (nonEmpty? key = none ∧ nonEmpty? key' = none) ∨
      ∃ k k', nonEmpty? key = some k ∧ nonEmpty? key' = some k' := by
  cases hk : nonEmpty? key with
  | none =>
    rw [hk] at h
    exact .inl ⟨rfl, Option.not_isSome_iff_eq_none.mp fun h' => absurd (h.mpr h') (by simp)⟩
  | some k =>
    rw [hk] at h
    obtain ⟨k', hk'⟩ := Option.isSome_iff_exists.mp (h.mp rfl)
    exact .inr ⟨k, k', rfl, hk'⟩

theorem makeClaude_alike (choice : AgentChoice) {key key' : Option String} (timeout : Value)
    (h : (nonEmpty? key).isSome ↔ (nonEmpty? key').isSome) :
    Alike Agent.SameButKeys (Agent.makeClaude choice key timeout)
      (Agent.makeClaude choice key' timeout) := by
  have hmake {env env' : Fields String} (henv : maskedEnv env = maskedEnv env') :
      Alike Agent.SameButKeys
        (do return Agent.claude (← ProgramAgent.make choice claudeTemplate env timeout))
        (do return Agent.claude (← ProgramAgent.make choice claudeTemplate env' timeout)) :=
    .pure (.claude ⟨choice, claudeTemplate, env, timeout⟩ henv)
  unfold Agent.makeClaude
  rcases both_or_neither h with ⟨hk, hk'⟩ | ⟨k, k', hk, hk'⟩
  · rw [hk, hk']
    exact hmake rfl
  · rw [hk, hk']
    exact hmake rfl

theorem makeOpenAI_alike (choice : AgentChoice) {key key' : Option String}
    (h : (nonEmpty? key).isSome ↔ (nonEmpty? key').isSome) :
    Alike Agent.SameButKeys (OpenAI.make choice key) (OpenAI.make choice key') := by
  unfold OpenAI.make
  rcases both_or_neither h with ⟨hk, hk'⟩ | ⟨k, k', hk, hk'⟩
  · rw [hk, hk']
    exact .throw _
  · rw [hk, hk']
    exact .seq (setUpClient_alike k k') fun _ => .seq (log_blind _ _) fun _ => .pure (.openai choice)

/-- **Agents are created with either settings or with neither**, and differ in keys alone. -/
theorem createAgent_alike (h : s.SameButKeys s') (own : Option AgentChoice) :
    Alike Agent.SameButKeys (s.createAgent own) (s'.createAgent own) := by
  unfold createAgent
  rw [h.agentInEffect]
  refine .seq_read fun out _ => ?_
  split
  · exact makeClaude_alike _ _ (h.apiKey _ _)
  · exact makeOpenAI_alike _ (h.apiKey _ _)
  · exact .throw _
  · exact .throw _

end Settings

/-! ### Steps -/

namespace Step

variable {settings settings' : Settings} (h : settings.SameButKeys settings')

include h

theorem askAgent_alike (s : Step) (scope : Scope) :
    Alike Eq (s.askAgent settings scope) (s.askAgent settings' scope) := by
  have hfailure (e : Fault) : s.agentFailure settings' e = s.agentFailure settings e := by
    rw [agentFailure, h.agentInEffect]
    rfl
  unfold askAgent
  split
  · exact .pure rfl
  · refine .bind (.attempt (Settings.createAgent_alike h _)) ?_
    rintro _ _ (hagent | e)
    · refine .seq (buildContext_blind _ _) fun context => .seq (.ofExcept _) fun prompt => ?_
      refine .seq (.attempt_eq (Agent.answer_alike hagent _)) fun answered => ?_
      cases answered with
      | error e => exact .pure (hfailure e).symm
      | ok response =>
        dsimp only
        split
        · exact .seq (log_blind _ _) fun _ => .pure rfl
        · exact .seq (.pure rfl) fun _ => .pure rfl
    · exact .pure (hfailure e).symm

theorem act_alike (s : Step) (scope : Scope) (type : StepType) :
    Alike Eq (s.act settings scope type) (s.act settings' scope type) := by
  cases type with
  | agent => exact askAgent_alike h s scope
  | command =>
    show Blind (s.runShell scope)
    unfold runShell
    split
    · exact .pure rfl
    · exact .seq (.ofExcept _) fun _ => .seq (runCommand_blind _ _) fun _ => .pure rfl
  | approval => exact .seq (log_blind _ _) fun _ => .pure rfl

/-- **An attempt has the same result with either settings.** -/
theorem execute_alike (s : Step) (scope : Scope) (index number : Nat) :
    Alike Eq (s.execute settings scope index number) (s.execute settings' scope index number) := by
  refine .seq (.ofExcept _) fun type => .seq now_blind fun startedAt => ?_
  refine .seq (.attempt_eq (act_alike h s scope type)) fun outcome => ?_
  refine .seq now_blind fun endedAt => ?_
  split
  split
  · exact .seq (log_blind _ _) fun _ => .pure rfl
  · exact .seq (.pure rfl) fun _ => .pure rfl

end Step

/-! ### Observers -/

/-- Observers that do not look at keys. -/
def Hooks.Blind (h : Hooks) : Prop := ∀ n, ∀ a ∈ h.answer n, Act.Blind a

namespace Hooks

variable {h : Hooks}

theorem blind_empty : Hooks.Blind {} := by
  intro n a ha
  cases n <;> cases ha

theorem Blind.tell (hblind : h.Blind) (n : Notice) : Act.Blind (h.tell n) := by
  rw [Hooks.tell]
  cases ha : h.answer n with
  | none => exact .pure rfl
  | some a => exact hblind n a ha

/-- Observers that note what they are told do not look at keys either. -/
theorem Blind.noting (hblind : h.Blind) : h.noting.Blind := by
  intro n a ha
  rw [Hooks.noting, answer_wrap] at ha
  obtain ⟨b, hb, rfl⟩ := Option.map_eq_some_iff.mp ha
  exact .seq (.record rfl) fun _ => hblind n b hb

end Hooks

/-! ### Runs -/

namespace Run

variable {r : Run} {settings : Settings} (h : r.settings.SameButKeys settings)
  (hhooks : r.hooks.Blind)

theorem wait_blind (delayMs : Int) : Blind (wait delayMs) :=
  .ite (fun _ => .seq (.ofExcept _) fun _ => sleep_blind _) fun _ => .pure rfl

theorem actionAfter_blind (s : Step) (index : Option Int) : Blind (actionAfter s index) := by
  unfold actionAfter
  split
  · exact .pure rfl
  · exact .seq (.ofExcept _) fun _ => .seq (log_blind _ _) fun _ => .pure rfl

include h hhooks

theorem attempt_alike (results : List StepResult) (index : Nat) (s : Step) (number : Nat) :
    Alike Eq (r.attempt results index s number)
      ({ r with settings := settings }.attempt results index s number) := by
  rw [attempt_eq, attempt_eq]
  refine .seq (.ofExcept _) fun type => .seq (log_blind _ _) fun _ => ?_
  refine .seq (hhooks.tell _) fun _ => .seq (Step.execute_alike h s _ _ _) fun x => ?_
  exact .seq (.forM fun n => hhooks.tell n) fun _ => .pure rfl

theorem retry_alike (failed : String) (index : Nat) (target : Step) (maxRetries delayMs : Int)
    (left number : Nat) (results : List StepResult) :
    Alike Eq (r.retry failed index target maxRetries delayMs left number results)
      ({ r with settings := settings }.retry failed index target maxRetries delayMs left number
        results) := by
  induction left generalizing number results with
  | zero =>
    exact .seq (.ofExcept _) fun _ => .seq (log_blind _ _) fun _ => .pure rfl
  | succ left ih =>
    refine .seq (.ofExcept _) fun _ => .seq (log_blind _ _) fun _ => ?_
    refine .seq (wait_blind delayMs) fun _ => .seq (attempt_alike h hhooks _ _ _ _) fun x => ?_
    exact .ite (fun _ => .pure rfl) fun _ => ih _ _

theorem recover_alike (index : Nat) (s : Step) (results : List StepResult) :
    Alike Eq (r.recover index s results)
      ({ r with settings := settings }.recover index s results) := by
  refine .seq (actionAfter_blind s _) fun action => ?_
  have hends (severity : Severity) (message : String) (goesOn : Bool) :
      Blind (do log severity message; return (results, goesOn)) :=
    .seq (log_blind _ _) fun _ => .pure rfl
  rcases action with _ | _ | _ | ⟨target, maxRetries, delayMs⟩
  · exact hends _ _ _
  · exact hends _ _ _
  · exact hends _ _ _
  · dsimp only
    cases target.resolve r.workflow.stepNames with
    | error e => exact hends _ _ _
    | ok i =>
      dsimp only
      cases r.workflow.steps[i]? with
      | none => exact .pure rfl
      | some t => exact retry_alike h hhooks _ _ _ _ _ _ _ _

/-- The attempts of a run, by induction on the steps that are still to come. -/
theorem steps_alike (index : Nat) (rest : List Step) (results : List StepResult) :
    Alike Eq (r.steps index rest results)
      ({ r with settings := settings }.steps index rest results) := by
  induction rest generalizing index results with
  | nil => exact .pure rfl
  | cons s rest ih =>
    refine .seq (attempt_alike h hhooks _ _ _ _) fun x => .ite (fun _ => ih _ _) fun _ => ?_
    exact .seq (recover_alike h hhooks _ _ _) fun p => .ite (fun _ => ih _ _) fun _ => .pure rfl

theorem body_alike : Alike Eq r.body { r with settings := settings }.body := by
  refine .seq (steps_alike h hhooks _ _ _) fun p => ?_
  simp only [notify_onRunComplete]
  exact .seq (hhooks.tell _) fun _ => .pure rfl

theorem execute_alike : Alike Eq r.execute { r with settings := settings }.execute := by
  refine .seq (log_blind _ _) fun _ => .seq (.attempt_eq (body_alike h hhooks)) fun outcome => ?_
  cases outcome with
  | error e => exact .throw _
  | ok report =>
    dsimp only
    cases report.ending with
    | completed => exact .seq (log_blind _ _) fun _ => .pure rfl
    | halted step index => exact .seq (log_blind _ _) fun _ => .pure rfl

end Run

/-! ### Run logs -/

namespace Act

theorem requireNulFree_blind (path : String) : Blind (requireNulFree path) :=
  .ite (fun _ => .throw _) fun _ => .pure rfl

theorem refused_blind {α : Type} (path : String) (r : Except FileCause α) :
    Blind (refused path r) := by
  cases r with
  | ok a => exact .pure rfl
  | error cause => exact .throw _

theorem here_blind : Blind here := .seq_read fun _ _ => .pure rfl

theorem look?_blind (path : String) : Blind (look? path) := by
  refine .ite (fun _ => .pure rfl) fun _ => .seq_get fun _ _ _ => ?_
  exact .seq here_blind fun _ => refused_blind _ _

theorem isDirectory_blind (path : String) : Blind (isDirectory path) :=
  .seq (look?_blind path) fun _ => .pure rfl

theorem openForWriting_blind (path : String) : Blind (openForWriting path) :=
  .seq (requireNulFree_blind _) fun _ => .seq_get fun _ _ _ => .seq here_blind fun _ =>
    .seq (refused_blind _ _) fun _ => .seq (change_blind _) fun _ => .pure rfl

theorem makeOneDirectory_blind (path : String) : Blind (makeOneDirectory path) :=
  .seq (requireNulFree_blind _) fun _ => .seq_get fun _ _ _ => .seq here_blind fun _ =>
    .seq (refused_blind _ _) fun _ => change_blind _

theorem ensureOneDirectory_blind (path : String) : Blind (ensureOneDirectory path) := by
  refine .seq (.attempt_eq (makeOneDirectory_blind path)) fun made => ?_
  cases made with
  | ok _ => exact .pure rfl
  | error e =>
    exact .seq (isDirectory_blind path) fun _ => .ite (fun _ => .pure rfl) fun _ => .throw _

theorem ensureDirectories_blind (root : String) (names : List String) :
    Blind (ensureDirectories root names) := by
  induction names with
  | nil => exact .pure rfl
  | cons name parents ih =>
    refine .seq (.attempt_eq (ensureOneDirectory_blind _)) fun made => ?_
    split
    · exact .pure rfl
    · exact .seq ih fun _ => ensureOneDirectory_blind _
    · exact .throw _

theorem renameFile_blind (source target : String) : Blind (renameFile source target) :=
  .seq_get fun _ _ _ => .seq here_blind fun _ => .seq (refused_blind _ _) fun _ =>
    .seq_get fun _ _ _ => .seq here_blind fun _ => .seq (refused_blind _ _) fun _ => change_blind _

end Act

namespace RunLog

theorem update_blind (f : RunLog → RunLog) : Blind (update f) :=
  .modify (fun _ _ => rfl) fun _ => rfl

theorem save_blind : Blind save := by
  refine .seq now_blind fun now => .seq (update_blind _) fun _ => .seq_get fun w _ _ => ?_
  dsimp only
  cases w.runLog with
  | none => exact .pure rfl
  | some log =>
    exact .seq (openForWriting_blind _) fun _ => .seq (.ofExcept _) fun _ =>
      .seq (change_blind _) fun _ => renameFile_blind _ _

theorem update_save_blind (f : RunLog → RunLog) : Blind (do update f; save) :=
  .seq (update_blind f) fun _ => save_blind

/-- Observers that keep a run log do not look at keys, nor do the observers around them. -/
theorem hooks_blind {h : Hooks} (hblind : h.Blind) : (hooks h).Blind := by
  intro n a ha
  cases n with
  | stepCompleted s x =>
    cases ha
    have hadd : Blind (add x) := update_save_blind _
    cases hbase : h.onStepComplete with
    | none => exact hadd
    | some f =>
      have hfirst : Blind (f s x) :=
        hblind (.stepCompleted s x) (f s x) (by simp [Hooks.answer, hbase])
      exact .seq hfirst fun _ => hadd
  | stepStarted s i => exact hblind (.stepStarted s i) a ha
  | stepFailed s e => exact hblind (.stepFailed s e) a ha
  | runCompleted xs => exact hblind (.runCompleted xs) a ha

theorem start_blind (log : RunLog) : Blind (start log) :=
  .seq (ensureDirectories_blind _ _) fun _ => .seq save_blind fun _ => .pure rfl

theorem create_blind (directory : Path) (workflow input : String) (vars : List (Value × Value))
    (runId : String) : Blind (create directory workflow input vars runId) := by
  have hkeep (log : RunLog) :
      Blind (do modify fun w => { w with runLog := some log }; return log) :=
    .seq (.modify (fun _ _ => rfl) fun _ => rfl) fun _ => .pure rfl
  unfold create
  dsimp only
  split
  · exact .seq now_blind fun _ => .seq_read fun _ _ => .seq (.pure rfl) fun _ =>
      .seq now_blind fun _ => hkeep _
  · exact .seq (.pure rfl) fun _ => .seq now_blind fun _ => hkeep _

end RunLog

/-- Two runs with their run logs, which have the same exit code and print the same. -/
theorem Command.runLogged_alike {settings settings' : Settings} (h : settings.SameButKeys settings')
    (directory : Path) (workflow : Workflow) (input : String) (vars : List (Value × Value)) :
    Alike Eq (runLogged settings directory workflow input vars)
      (runLogged settings' directory workflow input vars) := by
  refine .seq (RunLog.create_blind _ _ _ _ _) fun log => ?_
  refine .seq (RunLog.start_blind log) fun file => ?_
  refine .seq (log_blind _ _) fun _ => .seq (.attempt_eq ?_) fun outcome => ?_
  · exact .seq (.ofExcept _) fun _ =>
      Run.execute_alike (r := ⟨workflow, settings, RunLog.hooks {}, input, vars⟩) h
        (RunLog.hooks_blind Hooks.blind_empty)
  · have hfail (reason : String) : Blind (RunLog.fail reason) := RunLog.update_save_blind _
    split
    · refine .seq (hfail _) fun _ => .seq (.forM fun _ => log_blind _ _) fun _ => .pure rfl
    · refine .ite (fun _ => ?_) fun _ => .throw _
      exact .seq (hfail _) fun _ => .seq (log_blind _ _) fun _ => .pure rfl
    · refine .seq (RunLog.update_save_blind _) fun _ => .seq (log_blind _ _) fun _ => ?_
      dsimp only
      split
      · exact .seq (log_blind _ _) fun _ => .pure rfl
      · split
        · exact .seq (printLine_blind _) fun _ => .pure rfl
        · exact .pure rfl

/-! ### Two runs -/

/-- Notices to observers hold no keys. -/
theorem World.SameButKeys.notices_eq {w w' : World} (h : w.SameButKeys w') :
    w.notices = w'.notices := by
  obtain ⟨events, hmasked, rfl⟩ := h
  have hnotice : Event.notice? ∘ Event.masked = Event.notice? := by
    funext e
    rcases e with _ | _ | (_ | _) | _ | _ | _ <;> rfl
  have hall (es : List Event) :
      es.filterMap Event.notice? = (es.map Event.masked).filterMap Event.notice? := by
    rw [List.filterMap_map, hnotice]
  rw [notices, notices, hall, hall events, hmasked]

namespace Run

/-- **Two runs that differ in keys alone.** They end the same way, with the same report or the same
fault, and leave the same world: the same changes of files, the same log lines, the same run log.
The events are the same too, but for the key of Claude in the environment of programs and the key
that a client of the chat service is set up with. Observers are told the same. -/
theorem execute_keyless {r : Run} {settings : Settings} (h : r.settings.SameButKeys settings)
    (hhooks : r.hooks.Blind) {out : Surroundings} (hout : out.Keyless) (w : World) :
    (r.execute.perform out w).1 = ({ r with settings := settings }.execute.perform out w).1 ∧
      (r.execute.perform out w).2.SameButKeys
        ({ r with settings := settings }.execute.perform out w).2 ∧
      ({ r with hooks := r.hooks.noting }.execute.perform out w).2.notices =
        ({ r with hooks := r.hooks.noting, settings := settings }.execute.perform
          out w).2.notices := by
  obtain ⟨houtcome, hworld⟩ := execute_alike h hhooks out hout w w (.refl w)
  obtain ⟨-, htold⟩ :=
    execute_alike (r := { r with hooks := r.hooks.noting }) h hhooks.noting out hout w w (.refl w)
  exact ⟨houtcome.eq, hworld, htold.notices_eq⟩

/-- Claude is asked, and then the chat service. -/
def asking (keys : Fields String) : Run where
  workflow := {
    name := "review"
    steps := [
      { name := "read", type := .str "agent", prompt := some "Read.",
        onFailure := .str "continue" },
      { name := "sum up", type := .str "agent", agent := some { type := "openai" },
        prompt := some "Sum up." } ] }
  settings := { apiKeys := keys }
  hooks := RunLog.hooks {}

theorem execute_keyless_asking :
    (asking [("anthropic", "one"), ("openai", "two")]).settings.SameButKeys
        { apiKeys := [("anthropic", "three"), ("openai", "four")] } ∧
      Surroundings.silent.Keyless ∧
      (asking [("anthropic", "one"), ("openai", "two")]).hooks.Blind ∧
      ((asking [("anthropic", "one"), ("openai", "two")]).execute.perform .silent {}).2.events.any
        (· matches .chatClient (some "two")) ∧
      ((asking [("anthropic", "one"), ("openai", "two")]).execute.perform .silent {}).2.SameButKeys
        ((asking [("anthropic", "three"), ("openai", "four")]).execute.perform .silent {}).2 := by
  have hkeys : (asking [("anthropic", "one"), ("openai", "two")]).settings.SameButKeys
      { apiKeys := [("anthropic", "three"), ("openai", "four")] } := by
    refine ⟨rfl, rfl, rfl, fun provider => ?_⟩
    by_cases hanthropic : provider = "anthropic"
    · subst hanthropic
      exact iff_of_true (by decide) (by decide)
    · by_cases hopenai : provider = "openai"
      · subst hopenai
        exact iff_of_true (by decide) (by decide)
      · simp [Settings.HasKey, asking, Fields.get?, nonEmpty?, Ne.symm hanthropic, Ne.symm hopenai]
  have hout : Surroundings.silent.Keyless :=
    ⟨fun _ _ _ => rfl, fun _ _ => rfl, fun _ _ => rfl, fun _ _ _ => rfl⟩
  have hhooks : (RunLog.hooks {}).Blind := RunLog.hooks_blind Hooks.blind_empty
  exact ⟨hkeys, hout, hhooks, by decide +kernel,
    (execute_keyless hkeys hhooks hout {}).2.1⟩

end Run

end StepFlow
