import StepFlow.Proofs.Run.Course
import StepFlow.Proofs.Run.Insertion

/-!
# Retries that ask for the same

A failed attempt is recorded like any other, so that the templates of a retry are resolved in another
scope than those of the attempt that has failed. They see no difference, though, as long as they do
not mention the last output. A failed attempt has no output, and an output that does not exist is
empty as well. So a number or a name that leads to a failed attempt finds what it would find without
it; what it finds among the attempts before is the same in any case.

The last output is the exception. After a failure it is empty, whatever the step before has put out.

A step that is its own retry target thus repeats its request: from the attempt in its turn, whose
failure the retries are to mend, up to any of these retries there are only failed attempts. The turn
of a step need not be its first attempt, for an earlier step may have retried it before. An output
that it has had then is seen in its turn, and nothing is repeated from the time before.

## Main definitions

* `Scope.Agrees` — two scopes differ in the last output at most
* `Template.Forgoes` — a template does not mention the last output
* `Run.Mends` — what leads from the turn of a step to the retries for its failure
* `Run.Repeats` — a step asks for the same after other results

## Main results

* `Scope.agrees_append` — results without output make no other difference
* `Template.resolve_congr` — scopes that agree are the same to a template that forgoes the last output
* `Run.Reaches.mending` — between the turn of a step and its retries everything has failed
* `Run.failures_unseen` — failed attempts are not seen, and a retry of a step by itself repeats it
* `Run.turn_unlike_first` — what is repeated is the turn of the step, not its first attempt
-/

namespace StepFlow

open Act

/-! ### Scopes that agree -/

/-- Two scopes have the same input, variables and outputs by number and by name. Their last outputs
may differ. -/
structure Scope.Agrees (a b : Scope) : Prop where
  input : a.input = b.input
  vars : a.vars = b.vars
  outputAt : ∀ n, a.outputAt n = b.outputAt n
  outputOf : ∀ name, a.outputOf name = b.outputOf name

/-- What is found among empty outputs is empty. -/
private theorem getD_eq_empty {more : List (String × String)} (hmore : ∀ o ∈ more, o.2 = "")
    {found : Option (String × String)} (h : ∀ o ∈ found, o ∈ more) :
    (found.map (·.2)).getD "" = "" := by
  cases found with
  | none => rfl
  | some o => exact hmore o (h o rfl)

/-- Outputs that are empty may be left out. -/
theorem Scope.agrees_append (input : String) (vars : List (Value × Value))
    (outputs : List (String × String)) {more : List (String × String)}
    (hmore : ∀ o ∈ more, o.2 = "") :
    Scope.Agrees ⟨input, outputs ++ more, vars⟩ ⟨input, outputs, vars⟩ where
  input := rfl
  vars := rfl
  outputAt n := by
    simp only [Scope.outputAt]
    by_cases hn : n.toNat < outputs.length
    · rw [List.getElem?_append_left hn]
    · rw [List.getElem?_append_right (Nat.le_of_not_lt hn),
        List.getElem?_eq_none (Nat.le_of_not_lt hn),
        getD_eq_empty hmore fun o ho => List.mem_of_getElem? ho]
      rfl
  outputOf name := by
    simp only [Scope.outputOf, List.find?_append]
    cases outputs.find? (·.1 == name) with
    | some o => rfl
    | none => exact getD_eq_empty hmore fun o ho => List.mem_of_find?_eq_some ho

/-! ### Templates that see no difference -/

/-- A text is left as it is where the one to be replaced does not occur. -/
theorem Text.replaceAll_of_absent {old cs : List Char} (new : List Char) (h : ¬old <:+: cs) :
    replaceAll old new cs = cs := by
  have hleft := Template.Pass.make_of_leaves (@Template.Pass.leaves_of_not_infix old new cs h)
  rw [Template.Pass.make, substitute_occurrence] at hleft
  exact Except.ok.inj hleft

namespace Template

open Text

/-- A template does not mention the last output, once the input has been put into it. -/
def Forgoes (input template : String) : Prop :=
  ¬previousMark <:+: replaceAll inputMark input.toList template.toList

/-- **Scopes that agree are the same to a template that forgoes the last output.** Where a reference
cannot be resolved, the fault is the same too. -/
theorem resolve_congr {a b : Scope} (h : a.Agrees b) {template : String}
    (ht : Forgoes a.input template) : resolve a template = resolve b template := by
  have hindexed : indexedValue a = indexedValue b := by
    funext digits
    simp only [indexedValue, h.outputAt]
  have hvariable : variableValue a = variableValue b := by
    funext name
    simp only [variableValue, h.vars]
  have htb : Forgoes b.input template := h.input ▸ ht
  unfold resolve resolveChars
  dsimp only
  rw [replaceAll_of_absent a.previous.toList ht, replaceAll_of_absent b.previous.toList htb]
  simp only [h.input, h.outputOf, hindexed, hvariable]

theorem resolveAll_congr {a b : Scope} (h : a.Agrees b) {templates : List String}
    (ht : ∀ template ∈ templates, Forgoes a.input template) :
    resolveAll a templates = resolveAll b templates := by
  induction templates with
  | nil => rfl
  | cons template templates ih =>
    have hfirst := resolve_congr h (ht template List.mem_cons_self)
    have hrest := ih fun t hmem => ht t (List.mem_cons_of_mem _ hmem)
    unfold resolveAll at hrest ⊢
    rw [List.mapM_cons, List.mapM_cons, hfirst, hrest]

end Template

/-! ### Steps that see no difference -/

namespace Step

/-- The template of what a step asks for: a prompt or a command. -/
def request? (s : Step) : StepType → Option String
  | .agent => nonEmpty? s.prompt
  | .command => nonEmpty? s.command
  | .approval => none

/-- All templates of a step: for an agent there are those of the context too. -/
def templates (s : Step) (type : StepType) : List String :=
  (s.request? type).toList ++ match type, s.context with
    | .agent, some c => c.files ++ c.commands
    | _, _ => []

variable {s : Step} {a b : Scope}

theorem buildContext_congr (h : a.Agrees b) {c : Option ContextSpec}
    (ht : ∀ spec ∈ c, ∀ template ∈ spec.files ++ spec.commands, Template.Forgoes a.input template) :
    buildContext c a = buildContext c b := by
  cases c with
  | none => rfl
  | some spec =>
    have ht := ht spec rfl
    have hfiles := Template.resolveAll_congr h fun t hmem => ht t (List.mem_append_left _ hmem)
    have hcommands := Template.resolveAll_congr h fun t hmem => ht t (List.mem_append_right _ hmem)
    simp only [buildContext, ContextSpec.build, ContextSpec.filesPart, ContextSpec.commandsPart,
      hfiles, hcommands]

/-- What a step does depends on the scope by its templates only. -/
theorem act_congr (h : a.Agrees b) {type : StepType}
    (ht : ∀ template ∈ s.templates type, Template.Forgoes a.input template)
    (settings : Settings) : s.act settings a type = s.act settings b type := by
  cases type with
  | approval => rfl
  | command =>
    simp only [act, runShell]
    cases hcommand : nonEmpty? s.command with
    | none => rfl
    | some template =>
      have hmem : template ∈ s.templates .command := by simp [templates, request?, hcommand]
      simp only [Template.resolve_congr h (ht template hmem)]
  | agent =>
    simp only [act, askAgent]
    cases hprompt : nonEmpty? s.prompt with
    | none => rfl
    | some template =>
      have hmem : template ∈ s.templates .agent := by simp [templates, request?, hprompt]
      have hcontext : buildContext s.context a = buildContext s.context b := by
        refine buildContext_congr h fun spec hspec t ht' => ht t ?_
        rw [Option.mem_def] at hspec
        simpa [templates, hspec] using .inr (List.mem_append.mp ht')
      simp only [Template.resolve_congr h (ht template hmem), hcontext]

end Step

/-- The shell command that is run. -/
def Event.command? : Event → Option String
  | .shell call => some call.command
  | _ => none

namespace Run

variable {r : Run} {out : Surroundings} {w w₁ : World} {ds : List Deed}

/-- Failed attempts among deeds have no output. -/
theorem Does.output_eq_empty (h : r.Does out w ds w₁) :
    ∀ x ∈ historyOf ds, x.success = false → x.output = "" := by
  have hsnoc {ds : List Deed} {x : StepResult} {results : List StepResult} {index number : Nat}
      {s : Step} {w w' : World}
      (hx : (r.attempt results index s number).perform out w = (.ok x, w'))
      (ih : ∀ x ∈ historyOf ds, x.success = false → x.output = "") :
      ∀ y ∈ historyOf ds ++ [x], y.success = false → y.output = "" := by
    intro y hy
    rcases List.mem_append.mp hy with hy | hy
    · exact ih y hy
    · obtain rfl := List.mem_singleton.mp hy
      obtain ⟨w₁, w₂, hexecute⟩ := attempt_ok hx
      exact Step.output_eq_empty hexecute
  induction h with
  | nothing => simp
  | log _ _ ih => exact ih
  | turn _ _ hx ih =>
    rw [historyOf_append]
    exact hsnoc hx ih
  | pause _ _ ih => simpa using ih
  | retry _ _ hx ih =>
    rw [historyOf_append]
    exact hsnoc hx ih

/-! ### From the turn of a step to the retries for its failure -/

/-- The step at a position has been attempted in its turn, before which `before` had been done. It
has failed then, and so has all that has been attempted since. -/
structure Mends (r : Run) (out : Surroundings) (w : World) (i : Nat) (s : Step)
    (before ds : List Deed) : Prop where
  step : r.workflow.steps[i]? = some s
  turn : ∃ w₀ x w₁ since, r.Reaches out w ⟨.turn i, before, w₀⟩ ∧
    (r.attempt (historyOf before) i s 1).perform out w₀ = (.ok x, w₁) ∧ x.success = false ∧
    ds = before ++ .turn x :: since ∧ ∀ y ∈ historyOf since, y.success = false

/-- From its turn to the retries for its failure, a step has failed and so has everything since. -/
def Mending (r : Run) (out : Surroundings) (w : World) : Moment → Prop
  | ⟨.failed i, ds, _⟩ => ∃ s before, r.Mends out w i s before ds
  | ⟨.repair p _, ds, _⟩ | ⟨.retry p _, ds, _⟩ => ∃ s before, r.Mends out w p.failed s before ds
  | _ => True

/-- One more deed without a success. -/
theorem Mends.snoc {i : Nat} {s : Step} {before : List Deed} (h : r.Mends out w i s before ds)
    {d : Deed} (hd : ∀ y ∈ d.result?, y.success = false) :
    r.Mends out w i s before (ds ++ [d]) := by
  obtain ⟨hs, w₀, x, w₁, since, hreach, hx, hfail, rfl, hsince⟩ := h
  refine ⟨hs, w₀, x, w₁, since ++ [d], hreach, hx, hfail, by simp, fun y hy => ?_⟩
  rw [historyOf_append] at hy
  rcases List.mem_append.mp hy with hy | hy
  · exact hsince y hy
  · simp only [historyOf, List.mem_filterMap, List.mem_singleton, exists_eq_left] at hy
    exact hd y hy

/-- **Between the turn of a step and the retries for its failure everything has failed.** -/
theorem Reaches.mending {m : Moment} (h : r.Reaches out w m) : r.Mending out w m := by
  induction h with
  | start _ => trivial
  | move hreach hmove ih =>
    cases hmove with
    | finish _ => trivial
    | succeed _ _ _ => trivial
    | fail hs hx hfail => exact ⟨_, _, hs, _, _, _, [], hreach, hx, hfail, rfl, by simp⟩
    | halt _ _ _ => trivial
    | proceed _ _ _ => trivial
    | repair hs hv =>
      obtain ⟨_, -, -, hfailed⟩ := read_of_verdict_repair hv
      subst hfailed
      exact ih
    | exhaust _ _ => trivial
    | pass _ _ => exact ih
    | pause _ _ _ =>
      obtain ⟨s, before, hmends⟩ := ih
      exact ⟨s, before, hmends.snoc (by simp [Deed.result?])⟩
    | mend _ _ _ => trivial
    | miss _ _ hfail =>
      obtain ⟨s, before, hmends⟩ := ih
      exact ⟨s, before, hmends.snoc (by simpa [Deed.result?] using hfail)⟩

/-- When a retry is due, the scope is the one of the turn of the step that is to be mended, except
for the last output. -/
theorem Mends.agrees {i : Nat} {s : Step} {before : List Deed} (h : r.Mends out w i s before ds)
    (hdoes : r.Does out w ds w₁) :
    (r.scope (historyOf ds)).Agrees (r.scope (historyOf before)) := by
  obtain ⟨-, w₀, x, w₂, since, -, -, hfail, rfl, hsince⟩ := h
  have houtput := hdoes.output_eq_empty
  have hhistory : historyOf (before ++ .turn x :: since) =
      historyOf before ++ x :: historyOf since := by
    rw [historyOf_append]
    rfl
  rw [hhistory] at houtput ⊢
  rw [Run.scope, Run.scope, outputsOf, List.map_append]
  refine Scope.agrees_append _ _ _ fun o ho => ?_
  obtain ⟨y, hy, rfl⟩ := List.mem_map.mp ho
  refine houtput y (List.mem_append_right _ hy) ?_
  rcases List.mem_cons.mp hy with rfl | hy
  · exact hfail
  · exact hsince y hy

/-! ### Retries that repeat a request -/

/-- After other results a step asks for the same: what it asks for is resolved to the same text or
fails with the same fault. If the rest of its templates forgo the last output too, it does the same
altogether. -/
structure Repeats (r : Run) (s : Step) (type : StepType) (results results' : List StepResult) :
    Prop where
  request : ∀ template ∈ s.request? type, Template.Forgoes r.input template →
    Template.resolve (r.scope results') template = Template.resolve (r.scope results) template
  activity : (∀ template ∈ s.templates type, Template.Forgoes r.input template) →
    s.act r.settings (r.scope results') type = s.act r.settings (r.scope results) type

theorem Mends.repeats {i : Nat} {s : Step} {before : List Deed} (h : r.Mends out w i s before ds)
    (hdoes : r.Does out w ds w₁) (type : StepType) :
    r.Repeats s type (historyOf before) (historyOf ds) where
  request _ _ ht := Template.resolve_congr (h.agrees hdoes) ht
  activity ht := Step.act_congr (h.agrees hdoes) ht r.settings

/-- **Failed attempts are not seen.** To a template that forgoes the last output it makes no
difference whether results without output follow the others. Failed attempts have no output. So a
step that is its own retry target asks at every retry for what it has asked for when its turn has
come. -/
theorem failures_unseen :
    (∀ (input : String) (vars : List (Value × Value)) (results failed : List StepResult)
        (template : String), (∀ x ∈ failed, x.success = false ∧ x.output = "") →
      Template.Forgoes input template →
      Template.resolve ⟨input, outputsOf (results ++ failed), vars⟩ template =
        Template.resolve ⟨input, outputsOf results, vars⟩ template) ∧
    (∀ (s : Step) (settings : Settings) (scope : Scope) (index number : Nat) (out : Surroundings)
        (w : World) (x : StepResult) (w' : World),
      (s.execute settings scope index number).perform out w = (.ok x, w') → x.success = false →
      x.output = "") ∧
    ∀ (r : Run) (out : Surroundings) (w : World) (p : Repair) (left : Nat) (ds : List Deed)
        (w₁ : World), r.workflow.check = .ok () → r.Reaches out w ⟨.retry p left, ds, w₁⟩ →
      p.target = p.failed →
      ∃ s type before, r.workflow.steps[p.target]? = some s ∧ s.type? = some type ∧
        r.Mends out w p.failed s before ds ∧
        r.Repeats s type (historyOf before) (historyOf ds) := by
  refine ⟨fun input vars results failed template hfailed ht => ?_, fun _ _ _ _ _ _ _ _ _ h hfail =>
    Step.output_eq_empty h hfail, fun r out w p left ds w₁ hcheck hreach hself => ?_⟩
  · rw [outputsOf, List.map_append]
    refine Template.resolve_congr (Scope.agrees_append _ _ _ fun o ho => ?_) ht
    obtain ⟨x, hx, rfl⟩ := List.mem_map.mp ho
    exact (hfailed x hx).2
  · obtain ⟨s, before, hmends⟩ : ∃ s before, r.Mends out w p.failed s before ds := hreach.mending
    have haccepted := Workflow.accepted_of_errors (Workflow.check_eq_ok_iff.mp hcheck) hmends.step
    obtain ⟨type, htype⟩ := haccepted.type
    exact ⟨s, type, before, hself ▸ hmends.step, htype, hmends, hmends.repeats hreach.does type⟩

/-- A step that is tried again twice, and mentions its own output. -/
def insistent : Run where
  workflow := {
    name := "release"
    steps := [
      { name := "build", type := .str "command"
        command := some "make $step[build].output$step[0].output"
        onFailure := .action (.retry (.index 0) 2 0) } ] }

theorem failures_unseen_insistent :
    insistent.workflow.check = .ok () ∧
      ∃ ds w₁, insistent.Reaches .silent {} ⟨.retry ⟨0, 0, 2, 0⟩ 1, ds, w₁⟩ ∧
        ∃ s type before, insistent.workflow.steps[0]? = some s ∧ s.type? = some type ∧
          insistent.Mends .silent {} 0 s before ds ∧
          insistent.Repeats s type (historyOf before) (historyOf ds) := by
  have hcheck : insistent.workflow.check = .ok () := rfl
  let s := insistent.workflow.steps.head (List.cons_ne_nil _ _)
  have hs : insistent.workflow.steps[0]? = some s := rfl
  obtain ⟨x, w₁, hx, hfail⟩ : ∃ x w₁, (insistent.attempt [] 0 s 1).perform .silent {} = (.ok x, w₁) ∧
      x.success = false := exists_ok_of_map (by decide +kernel)
  have hreach : insistent.Reaches .silent {} ⟨.retry ⟨0, 0, 2, 0⟩ 1, [.turn x], w₁⟩ :=
    .move (.move (.move (.start (.refl _)) (.fail hs hx hfail))
      (.repair hs rfl)) (.pass (by decide) (.refl _))
  exact ⟨hcheck, _, _, hreach, failures_unseen.2.2 _ _ _ _ _ _ _ hcheck hreach rfl⟩

/-- A step that is retried for the failure of the one before it. Later it retries itself, and it
mentions its own output. -/
def crossed : Run where
  workflow := {
    name := "release"
    steps := [
      { name := "build", type := .str "command", command := some "make",
        onFailure := .str "retry_step[check]" },
      { name := "check", type := .str "command", command := some "echo $step[1].output",
        onFailure := .str "retry_step[1]" } ] }

/-- Surroundings in which nothing but one command succeeds, which puts out an `x`. -/
def succeedingOnce : Surroundings :=
  { Surroundings.silent with
    shell := fun _ _ call => (.exited [120] [] (if call.command = "echo " then 0 else 1), []) }

/-- **A retry repeats the turn of a step, not its first attempt.** The second step is attempted for
the first time when it is retried for the first one, and succeeds. In its turn it fails, and the
retry by itself asks for what it has asked for in its turn, though its template does not mention the
last output. -/
theorem turn_unlike_first :
    crossed.workflow.check = .ok () ∧
      Template.Forgoes crossed.input "echo $step[1].output" ∧
      Policy.read (some 1) (.str "retry_step[1]") = .ok (some (.retry (.index 1) 1 0)) ∧
      ((crossed.execute.perform succeedingOnce {}).1.toOption.map fun report =>
          report.results.map fun x => (x.index, x.attempt, x.success)) =
        some [(0, 1, false), (1, 1, true), (1, 1, false), (1, 3, false)] ∧
      (crossed.execute.perform succeedingOnce {}).2.events.filterMap Event.command? =
        ["make", "echo ", "echo x", "echo x"] := by
  refine ⟨rfl, ?_, rfl, by decide +kernel, by decide +kernel⟩
  unfold Template.Forgoes
  decide +kernel

end Run

end StepFlow
