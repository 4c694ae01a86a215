import StepFlow.Proofs.Run.Blocks
import StepFlow.Proofs.Run.Context
import StepFlow.Proofs.Value.Text

/-!
# Failures stay contained

Whatever becomes of the activity of a step, its attempt leaves a result: that a command fails or
cannot be run, that an agent cannot be set up or gives no answer, that a template or a variable
cannot be resolved, all this is shown by a failed result, and the run goes on to what the failure
policy says. How the commands of a context end is not even a failure of the step: the context shows
what they have written, or why they could not be run to their end, and an exit code leaves a line in
the log.

What is left are the faults of a run itself. When nobody observes it, there are three of them, and all
arise where retries are made: the number of retries cannot be written into the log, the pause before a
retry is too long for a number of seconds, or the system refuses to wait so long. A run that ends in a
fault does so with one that says that the execution has failed.

## Main definitions

* `Run.due`, `Run.IsDue` — the step that is to be attempted at a moment
* `Run.Contains` — the attempt at a moment leaves a result that shows what the step has come to
* `Run.Hindered`, `Run.Overflows` — a retry that cannot be counted or waited for

## Main results

* `Run.Reaches.contains` — every attempt of a run leaves a result
* `Run.overflows_of_breaks` — a run breaks off in three ways only
* `Run.execute_contained` — failures of a run that nobody observes stay contained
* `Run.execute_patient` — a run whose pause is refused
-/

namespace StepFlow

open Act

namespace Run

/-- The position of the step that is to be attempted at a moment. -/
def due (r : Run) (m : Moment) : Option Nat :=
  match m.phase with
  | .turn i => if i < r.workflow.steps.length then some i else none
  | .retry p _ => some p.target
  | _ => none

/-- At a moment a step is to be attempted: its position and the number of the attempt. -/
inductive IsDue (r : Run) : Moment → Nat → Step → Nat → Prop
  | turn {i s ds w} : r.workflow.steps[i]? = some s → IsDue r ⟨.turn i, ds, w⟩ i s 1
  | retry {p left t ds w} : r.workflow.steps[p.target]? = some t →
      IsDue r ⟨.retry p left, ds, w⟩ p.target t (attemptsOf (historyOf ds) p.target + 1)

/-- If a step is to be attempted at a moment, the run records a result that shows what the activity
of the step has come to. -/
def Contains (r : Run) (out : Surroundings) (m : Moment) : Prop :=
  ∀ i, r.due m = some i → ∃ s type w₁ x m', r.workflow.steps[i]? = some s ∧ s.type? = some type ∧
    m.world.Logged w₁ ∧
    x.Shows ((s.act r.settings (r.scope (historyOf m.deeds)) type).perform out w₁.ticked).1 ∧
    r.Moves out m m' ∧ historyOf m'.deeds = historyOf m.deeds ++ [x]

/-- Why a retry cannot be made, at most `left` of which are to come: the number of retries cannot be
written, or the pause before the next one is beyond the doubles, or it is refused. -/
inductive Hindered (out : Surroundings) (w : World) (p : Repair) (left : Nat) : Fault → Prop
  | count : tenTo digitLimit ≤ p.maxRetries.natAbs → Hindered out w p left (.number .tooLongToWrite)
  | beyondDouble : 0 < left → 0 < p.delayMs → Double.ofInt? p.delayMs = none →
      Hindered out w p left (.number .beyondDouble)
  | refused {seconds : Double} {fault : WaitFault} : 0 < left → 0 < p.delayMs →
      pause p.delayMs = .ok seconds → out.sleep w.readings seconds = some fault →
      Hindered out w p left (.wait fault)

/-- Retries that are due at a moment, by the policy of the step that has failed, cannot be made. -/
def Overflows (r : Run) (out : Surroundings) (m : Moment) (cause : Fault) : Prop :=
  ∃ p left s target, m.phase = .repair p left ∧ r.workflow.steps[p.failed]? = some s ∧
    Policy.read (some (p.failed : Int)) s.onFailure =
      .ok (some (.retry target p.maxRetries p.delayMs)) ∧
    target.resolve r.workflow.stepNames = .ok p.target ∧ Hindered out m.world p left cause

variable {r : Run} {out : Surroundings} {w : World} {m : Moment}

/-! ### Attempts -/

theorem IsDue.steps_eq {i : Nat} {s : Step} {number : Nat} (h : r.IsDue m i s number) :
    r.workflow.steps[i]? = some s := by
  cases h with
  | turn hs => exact hs
  | retry ht => exact ht

/-- A step whose attempts nobody observes has a result for each of them. -/
theorem exists_attempt (hacc : r.workflow.errors = .ok []) (hr : r.hooks = {}) {i : Nat} {s : Step}
    (hs : r.workflow.steps[i]? = some s) (results : List StepResult) (number : Nat)
    (out : Surroundings) (w : World) :
    ∃ type w₁ x w', s.type? = some type ∧ w.Logged w₁ ∧
      (r.attempt results i s number).perform out w = (.ok x, w') ∧
      x.Shows ((s.act r.settings (r.scope results) type).perform out w₁.ticked).1 := by
  obtain ⟨type, htype⟩ := (Workflow.accepted_of_errors hacc hs).type
  obtain ⟨w₁, x, w', hlog, hx, hshows, -⟩ := attempt_unobserved hr htype results i number out w
  exact ⟨type, w₁, x, w', htype, hlog, hx, hshows⟩

/-- **Every attempt of a run leaves a result.** -/
theorem Reaches.contains (hacc : r.workflow.errors = .ok []) (hr : r.hooks = {})
    (h : r.Reaches out w m) : r.Contains out m := by
  have hcharted := h.charted hacc
  intro i hdue
  obtain ⟨phase, ds, w₀⟩ := m
  cases phase with
  | turn j =>
    simp only [due] at hdue
    split at hdue
    · rename_i hlt
      cases hdue
      have hs := List.getElem?_eq_getElem hlt
      obtain ⟨type, w₁, x, w', htype, hlog, hx, hshows⟩ :=
        exists_attempt hacc hr hs (historyOf ds) 1 out w₀
      refine ⟨r.workflow.steps[i], type, w₁, x, ?_⟩
      cases hsucc : x.success with
      | true => exact ⟨_, hs, htype, hlog, hshows, .succeed hs hx hsucc, by simp⟩
      | false => exact ⟨_, hs, htype, hlog, hshows, .fail hs hx hsucc, by simp⟩
    · cases hdue
  | retry p left =>
    cases hdue
    obtain ⟨blocks, b, pauses, -, hb, -, -⟩ := hcharted
    obtain ⟨t, ht⟩ := hb.exists_target
    obtain ⟨type, w₁, x, w', htype, hlog, hx, hshows⟩ :=
      exists_attempt hacc hr ht (historyOf ds) (attemptsOf (historyOf ds) p.target + 1) out w₀
    refine ⟨t, type, w₁, x, ?_⟩
    cases hsucc : x.success with
    | true => exact ⟨_, ht, htype, hlog, hshows, .mend ht hx hsucc, by simp⟩
    | false => exact ⟨_, ht, htype, hlog, hshows, .miss ht hx hsucc, by simp⟩
  | failed j => cases hdue
  | repair p left => cases hdue
  | ended ending => cases hdue

/-! ### Faults of a run -/

theorem beyondDouble_of_pause_error {delayMs : Int} {e : Fault} (h : pause delayMs = .error e) :
    Double.ofInt? delayMs = none ∧ e = .number .beyondDouble := by
  unfold pause at h
  split at h
  · cases h
  · cases h
    exact ⟨‹_›, rfl⟩

/-- Retries that are due have been declared by the step that has failed. -/
theorem Reaches.overflows (hacc : r.workflow.errors = .ok []) {p : Repair} {left : Nat}
    {ds : List Deed} {w₀ : World} (h : r.Reaches out w ⟨.repair p left, ds, w₀⟩) {cause : Fault}
    (hcause : Hindered out w₀ p left cause) : r.Overflows out ⟨.repair p left, ds, w₀⟩ cause := by
  obtain ⟨blocks, b, -, hb, -⟩ := h.charted hacc
  obtain ⟨target, haction, hres⟩ := hb.declared
  obtain ⟨s, hs, hread⟩ := hb.action
  exact ⟨p, left, s, target, rfl, hs, haction ▸ hread, hres, hcause⟩

/-- A run that does not break off in an attempt does so in three ways only, and nothing has happened
then but lines in the log. -/
theorem Reaches.attempt_or_overflows (hacc : r.workflow.errors = .ok []) (h : r.Reaches out w m)
    {cause : Fault} {w' : World} (hbreaks : r.Breaks out m cause w') :
    (∃ i s number, r.IsDue m i s number ∧
        (r.attempt (historyOf m.deeds) i s number).perform out m.world = (.error cause, w')) ∨
      r.Overflows out m cause ∧ m.world.Logged w' := by
  cases hbreaks with
  | turn hs hx => exact .inl ⟨_, _, _, .turn hs, hx⟩
  | retry ht hx => exact .inl ⟨_, _, _, .retry ht, hx⟩
  | policy hs hv =>
    obtain ⟨action, hread⟩ := (Workflow.accepted_of_errors hacc hs).policy
    cases hread.symm.trans (read_of_verdict_breakOff hv)
  | count htext =>
    obtain ⟨hlong, rfl⟩ := tooLong_of_integerText_error htext
    exact .inr ⟨h.overflows hacc (.count hlong), .refl _⟩
  | pause hpos hpause hlog =>
    obtain ⟨hbeyond, rfl⟩ := beyondDouble_of_pause_error hpause
    exact .inr ⟨h.overflows hacc (.beyondDouble (Nat.succ_pos _) hpos hbeyond), hlog⟩
  | sleep hpos hpause hlog hsleep =>
    obtain ⟨lines, rfl⟩ := hlog
    exact .inr ⟨h.overflows hacc (.refused (Nat.succ_pos _) hpos hpause hsleep), lines, rfl⟩

/-- **A run breaks off in three ways only**, if its attempts always leave a result. -/
theorem overflows_of_breaks_of_attempts (hacc : r.workflow.errors = .ok [])
    (hattempts : ∀ i s, r.workflow.steps[i]? = some s → ∀ results number w,
      ∃ x w', (r.attempt results i s number).perform out w = (.ok x, w'))
    (h : r.Reaches out w m) {cause : Fault} {w' : World} (hbreaks : r.Breaks out m cause w') :
    r.Overflows out m cause ∧ m.world.Logged w' := by
  rcases h.attempt_or_overflows hacc hbreaks with ⟨i, s, number, hdue, hx⟩ | hover
  · obtain ⟨x, _, hx'⟩ := hattempts i s hdue.steps_eq (historyOf m.deeds) number m.world
    cases hx.symm.trans hx'
  · exact hover

/-- A run that nobody observes breaks off in three ways only. -/
theorem overflows_of_breaks (hacc : r.workflow.errors = .ok []) (hr : r.hooks = {})
    (h : r.Reaches out w m) {cause : Fault} {w' : World} (hbreaks : r.Breaks out m cause w') :
    r.Overflows out m cause := by
  refine (overflows_of_breaks_of_attempts hacc (fun i s hs results number w => ?_) h hbreaks).1
  obtain ⟨_, _, x, w', -, -, hx, -⟩ := exists_attempt hacc hr hs results number out w
  exact ⟨x, w', hx⟩

/-- What overflows leaves a run as a failure of its execution. -/
theorem Overflows.escaped_eq {cause : Fault} (h : r.Overflows out m cause) :
    escaped cause = .execution cause.message := by
  obtain ⟨p, left, s, target, -, -, -, -, hcause⟩ := h
  cases hcause <;> rfl

/-- **Failures stay contained.** When nobody observes the run of an accepted workflow, every attempt
that it comes to leaves a result, which shows what the step has come to; how the commands of a
context end is shown by its text, exit codes apart, which are told in the log. The run gives a
report, or it fails where retries are due that cannot be counted or waited for. -/
theorem execute_contained (hcheck : r.workflow.check = .ok ()) (hr : r.hooks = {})
    (out : Surroundings) (w : World) :
    (∀ m, r.Reaches out w m → r.Contains out m) ∧
    (∀ c : ContextSpec, c.ContainsCommands out) ∧
    ((∃ report w', r.execute.perform out w = (.ok report, w')) ∨
      ∃ m cause w', r.execute.perform out w = (.error (.execution cause.message), w') ∧
        r.Reaches out w m ∧ r.Breaks out m cause w' ∧ r.Overflows out m cause) := by
  have hacc := Workflow.check_eq_ok_iff.mp hcheck
  refine ⟨fun m h => h.contains hacc hr, fun c => c.containsCommands out, ?_⟩
  rcases hrun : r.execute.perform out w with ⟨e | report, w'⟩
  · obtain ⟨cause, rfl, ⟨m, hreach, hbreaks⟩ | ⟨ending, ds, w₁, -, htold⟩⟩ := execute_error hrun
    · have hover := overflows_of_breaks hacc hr hreach hbreaks
      exact .inr ⟨m, cause, w', by rw [hover.escaped_eq], hreach, hbreaks, hover⟩
    · rw [hr] at htold
      cases htold
  · exact .inl ⟨report, w', rfl⟩

theorem execute_contained_mended :
    mended.workflow.check = .ok () ∧ mended.hooks = {} ∧
      (∀ m, mended.Reaches .silent {} m → mended.Contains .silent m) ∧
      ((∃ report w', mended.execute.perform .silent {} = (.ok report, w')) ∨
        ∃ m cause w',
          mended.execute.perform .silent {} = (.error (.execution cause.message), w') ∧
          mended.Reaches .silent {} m ∧ mended.Breaks .silent m cause w' ∧
          mended.Overflows .silent m cause) := by
  obtain ⟨hcontains, -, hrun⟩ := execute_contained check_mended rfl .silent {}
  exact ⟨check_mended, rfl, hcontains, hrun⟩

/-- A run that is to wait some three hundred years before a retry. -/
def patient : Run where
  workflow := {
    name := "release"
    steps := [
      { name := "build", type := .str "command",
        onFailure := .action (.retry (.index 0) 1 10000000000000) } ] }

/-- Surroundings with a clock, in which every command exits with a code and writes nothing. -/
def exiting (code : Int) : Surroundings :=
  { Surroundings.silent with
    shell := fun _ _ _ => (.exited [] [] code, [])
    sleep := fun _ => clockRefusal }

/-- **A pause that is refused ends a run**, though it has a number of seconds and the number of retries
can be written. And the exit code of a command does not show in a context, but in the log. -/
theorem execute_patient :
    (patient.workflow.check = .ok () ∧ patient.hooks = {} ∧
      (∃ w', patient.execute.perform (exiting 3) {} =
        (.error (.execution "timestamp out of range for platform time_t"), w')) ∧
      (pause 10000000000000).isOk ∧ (integerText 1).isOk) ∧
    ((ContextSpec.commandsPart { commands := ["c"] } ⟨"", [], []⟩).perform (exiting 3) {}).1 =
      .ok ["=== Command Output ===\n$ c\n\n"] ∧
    ((ContextSpec.commandsPart { commands := ["c"] } ⟨"", [], []⟩).perform (exiting 0) {}).1 =
      .ok ["=== Command Output ===\n$ c\n\n"] ∧
    ((ContextSpec.commandsPart { commands := ["c"] } ⟨"", [], []⟩).perform (exiting 3) {}).2.logs =
      [⟨.warning, "Context command exited with code 3: c"⟩] :=
  ⟨⟨rfl, rfl, exists_error_of_map (by decide +kernel), by decide +kernel, by decide +kernel⟩,
    rfl, rfl, rfl⟩

end Run

end StepFlow
