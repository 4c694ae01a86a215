import StepFlow.Proofs.Activity
import StepFlow.Run.Execution

/-!
# What an attempt does to the world

An attempt of a step writes log lines, reads the clock, calls shells, programs and chat services,
and a shell that is called may change files. It does nothing else: it does not pause, and it tells
nothing to an observer, which is what the run around it does.

`AllowsCalls R` says that the preorder `R` holds over each of these four things. Every activity
below an attempt respects such an `R`, and so does the attempt as a whole; what an attempt leaves
alone is then read off by choosing `R`. `World.SamePauses` is the choice for pauses.

## Main definitions

* `AllowsCalls` — a preorder on worlds that holds over whatever an attempt does
* `World.pauses` — the pauses that have been made, in order
* `Hooks.Quiet` — observers that make no pause

## Main results

* `Step.execute_respects` — an attempt respects every preorder that allows calls
* `Run.attempt_samePauses` — an attempt makes no pause, if its observers make none
-/

namespace StepFlow

open Act

/-- A call to the outside. -/
def Event.isCall : Event → Bool
  | .shell _ | .program _ | .chatClient _ | .chat _ => true
  | .slept _ | .noticed _ => false

/-- A preorder on worlds that holds over whatever an attempt of a step does. -/
class AllowsCalls (R : World → World → Prop) : Prop extends IsPreorder World R where
  log (w : World) (lines : List LogLine) : R w { w with logs := lines }
  clock (w : World) (n : Nat) : R w { w with readings := n }
  call (w : World) {e : Event} (h : e.isCall) : R w { w with events := w.events ++ [e] }
  change (w : World) (c : Change) :
    R w { w with files := w.files.apply c, changes := w.changes ++ [c] }

section

variable {R : World → World → Prop} [AllowsCalls R]

/-! ### Single activities -/

namespace Act

theorem log_respects (severity : Severity) (message : String) : Respects R (log severity message) :=
  fun _ w => AllowsCalls.log w _

theorem now_respects : Respects R now := fun _ w => AllowsCalls.clock w _

theorem record_respects {e : Event} (h : e.isCall) : Respects R (record e) :=
  fun _ w => AllowsCalls.call w h

theorem change_respects (c : Change) : Respects R (change c) :=
  fun _ w => AllowsCalls.change w c

theorem shell_respects (call : ShellCall) : Respects R (shell call) := by
  refine .bind .read fun out => .bind .get fun w => .bind (record_respects rfl) fun _ => ?_
  exact .bind (.forM change_respects) fun _ => .pure _

theorem program_respects (call : ProgramCall) : Respects R (program call) :=
  .bind .read fun _ => .bind .get fun _ => .bind (record_respects rfl) fun _ => .pure _

theorem setUpClient_respects (key : String) : Respects R (setUpClient key) :=
  .bind .read fun _ => .bind .get fun _ => by
    split
    · exact .throw _
    · exact record_respects rfl

theorem chat_respects (call : ChatCall) : Respects R (chat call) :=
  .bind .read fun _ => .bind .get fun _ => .bind (record_respects rfl) fun _ => .pure _

end Act

theorem runCommand_respects (command : String) (timeout : Value) :
    Respects R (runCommand command timeout) :=
  .bind (shell_respects _) fun _ => .ofExcept _

theorem Collector.collect_respects (c : Collector) (patterns : List String) :
    Respects R (c.collect patterns) :=
  .bind .get fun _ => .bind (.forM fun _ => log_respects _ _) fun _ => by
    split
    · exact .throw _
    · exact .pure _

/-! ### Contexts -/

namespace ContextSpec

theorem filesPart_respects (c : ContextSpec) (collector : Collector) (scope : Scope) :
    Respects R (c.filesPart collector scope) := by
  unfold filesPart
  split
  · exact .pure _
  · refine .bind (.ofExcept _) fun patterns => .bind (collector.collect_respects _) fun found => ?_
    split
    · exact .pure _
    · exact .pure _

theorem commandBlock_respects (command : String) : Respects R (commandBlock command) := by
  refine .bind (runCommand_respects _ _) fun r => ?_
  split
  · exact .bind (log_respects _ _) fun _ => .pure _
  · exact .bind (.pure _) fun _ => .pure _

theorem commandsPart_respects (c : ContextSpec) (scope : Scope) :
    Respects R (c.commandsPart scope) := by
  unfold commandsPart
  split
  · exact .pure _
  · exact .bind (.ofExcept _) fun _ => .bind (.mapM commandBlock_respects) fun _ => .pure _

theorem build_respects (c : ContextSpec) (collector : Collector) (scope : Scope) :
    Respects R (c.build collector scope) :=
  .bind (c.filesPart_respects _ _) fun _ => .bind (c.commandsPart_respects _) fun _ =>
    .bind (.ofExcept _) fun _ => .pure _

end ContextSpec

theorem buildContext_respects (c : Option ContextSpec) (scope : Scope) :
    Respects R (buildContext c scope) := by
  cases c with
  | none => exact .pure _
  | some c => exact .bind .read fun _ => c.build_respects _ _

/-! ### Agents -/

namespace ProgramAgent

theorem readReply_respects (a : ProgramAgent) (program : String) (reply : ProgramReply) :
    Respects R (a.readReply program reply) := by
  cases reply with
  | exited stdout stderr code =>
    simp only [readReply]
    split
    · exact .pure _
    · exact .throw _
  | timedOut => exact .bind (.ofExcept _) fun _ => .throw _
  | notFound => exact .throw _
  | notStarted reason => exact .throw _
  | crashed reason => exact .throw _

theorem answer_respects (a : ProgramAgent) (extra : List String) (r : AgentRequest) :
    Respects R (a.answer extra r) := by
  have ask (argv : List String) (stdin : Option String) : Respects R (do
      let env := Fields.setAll (← read).env a.env
      a.readReply (argv.headD "") (← Act.program ⟨argv, stdin, env, a.timeout⟩)) :=
    .bind .read fun _ => .bind (program_respects _) fun _ => a.readReply_respects _ _
  exact .ite (fun _ => .bind (.throw _) fun _ => ask _ _) fun _ => ask _ _

theorem make_respects (choice : AgentChoice) (template : CommandTemplate) (env : Fields String)
    (timeout : Value) : Respects R (make choice template env timeout) := by
  unfold make
  split
  · exact .pure _
  · exact .throw _

end ProgramAgent

namespace OpenAI

theorem make_respects (choice : AgentChoice) (key : Option String) :
    Respects R (make choice key) := by
  unfold make
  split
  · exact .throw _
  · exact .bind (setUpClient_respects _) fun _ => .bind (log_respects _ _) fun _ => .pure _

theorem answer_respects (choice : AgentChoice) (r : AgentRequest) :
    Respects R (answer choice r) := by
  refine .bind (chat_respects _) fun reply => ?_
  cases reply with
  | answered content usage => exact .pure _
  | failed reason => exact .throw _
  | noChoices => exact .throw _
  | crashed reason => exact .throw _

end OpenAI

theorem Agent.answer_respects (a : Agent) (r : AgentRequest) : Respects R (a.answer r) := by
  cases a with
  | program a => exact a.answer_respects _ _
  | claude a => exact a.answer_respects _ _
  | openai choice => exact OpenAI.answer_respects _ _

theorem Settings.createAgent_respects (s : Settings) (own : Option AgentChoice) :
    Respects R (s.createAgent own) := by
  refine .bind .read fun out => ?_
  split
  · exact .bind (ProgramAgent.make_respects _ _ _ _) fun _ => .pure _
  · exact OpenAI.make_respects _ _
  · exact .throw _
  · exact .throw _

/-! ### Steps -/

namespace Step

theorem askAgent_respects (s : Step) (settings : Settings) (scope : Scope) :
    Respects R (s.askAgent settings scope) := by
  unfold askAgent
  split
  · exact .pure _
  · refine .bind (.attempt (settings.createAgent_respects _)) fun created => ?_
    split
    · exact .pure _
    · refine .bind (buildContext_respects _ _) fun context => .bind (.ofExcept _) fun prompt => ?_
      refine .bind (.attempt (Agent.answer_respects _ _)) fun answered => ?_
      split
      · exact .pure _
      · split
        · exact .bind (log_respects _ _) fun _ => .pure _
        · exact .bind (.pure _) fun _ => .pure _

theorem runShell_respects (s : Step) (scope : Scope) : Respects R (s.runShell scope) := by
  unfold runShell
  split
  · exact .pure _
  · exact .bind (.ofExcept _) fun _ => .bind (runCommand_respects _ _) fun _ => .pure _

theorem act_respects (s : Step) (settings : Settings) (scope : Scope) (type : StepType) :
    Respects R (s.act settings scope type) := by
  cases type with
  | agent => exact s.askAgent_respects _ _
  | command => exact s.runShell_respects _
  | approval => exact .bind (log_respects _ _) fun _ => .pure _

/-- **An attempt does nothing but what is allowed.** Log lines, readings of the clock, calls, and
changes of files by shells are all there is to it. -/
theorem execute_respects (s : Step) (settings : Settings) (scope : Scope) (index number : Nat) :
    Respects R (s.execute settings scope index number) := by
  refine .bind (.ofExcept _) fun type => .bind now_respects fun startedAt => ?_
  refine .bind (.attempt (s.act_respects _ _ _)) fun outcome => .bind now_respects fun endedAt => ?_
  split
  split
  · exact .bind (log_respects _ _) fun _ => .pure _
  · exact .bind (.pure _) fun _ => .pure _

end Step

end

/-! ### Pauses -/

/-- The pause that an event is. -/
def Event.pause? : Event → Option Double
  | .slept seconds => some seconds
  | _ => none

/-- The pauses that have been made, in order. -/
def World.pauses (w : World) : List Double := w.events.filterMap Event.pause?

/-- No pause has been made from `w` to `w'`. -/
def World.SamePauses (w w' : World) : Prop := w'.pauses = w.pauses

theorem Event.pause?_of_isCall {e : Event} (h : e.isCall) : e.pause? = none := by
  cases e <;> first | rfl | simp [isCall] at h

instance : AllowsCalls World.SamePauses where
  refl _ := rfl
  trans _ _ _ h h' := Eq.trans h' h
  log _ _ := rfl
  clock _ _ := rfl
  call _ _ h := by simp [World.SamePauses, World.pauses, Event.pause?_of_isCall h]
  change _ _ := rfl

theorem World.Logged.samePauses {w w' : World} (h : w.Logged w') : w.SamePauses w' := by
  obtain ⟨lines, rfl⟩ := h
  rfl

/-- Observers that make no pause, whatever they are told. -/
structure Hooks.Quiet (h : Hooks) : Prop where
  onStepStart : ∀ f ∈ h.onStepStart, ∀ s i, Respects World.SamePauses (f s i)
  onStepComplete : ∀ f ∈ h.onStepComplete, ∀ s x, Respects World.SamePauses (f s x)
  onError : ∀ f ∈ h.onError, ∀ s e, Respects World.SamePauses (f s e)
  onRunComplete : ∀ f ∈ h.onRunComplete, ∀ xs, Respects World.SamePauses (f xs)

/-- No observers make no pause. -/
theorem Hooks.quiet_empty : Hooks.Quiet {} := by
  constructor <;> simp

namespace Run

theorem notify_respects {α : Type} {R : World → World → Prop} [IsPreorder World R]
    {hook : Option (α → Act Unit)} (h : ∀ f ∈ hook, ∀ v, Respects R (f v)) (v : α) :
    Respects R (notify hook v) := by
  cases hook with
  | none => exact .pure _
  | some f => exact h f rfl v

/-- An attempt makes no pause, if its observers make none. -/
theorem attempt_samePauses {r : Run} (h : r.hooks.Quiet) (results : List StepResult) (index : Nat)
    (s : Step) (number : Nat) : Respects World.SamePauses (r.attempt results index s number) := by
  refine .bind (.ofExcept _) fun type => .bind (log_respects _ _) fun _ => ?_
  refine .bind (notify_respects ?_ _) fun _ => .bind (s.execute_respects _ _ _ _) fun x => ?_
  · simpa using fun f hf => h.onStepStart f hf s
  · refine .bind (notify_respects ?_ _) fun _ => ?_
    · simpa using fun f hf => h.onStepComplete f hf s
    · split
      · refine .bind (notify_respects ?_ _) fun _ => .pure _
        simpa using fun f hf => h.onError f hf s
      · exact .pure _

end Run

end StepFlow
