import StepFlow.Proofs.Run.Attempt
import StepFlow.Proofs.Workflow.Accepted

/-!
# The course of a run

A run is a loop around another loop: steps are attempted in turn, and the failure of one may lead to
retries of another. This file takes the two loops apart into moments. A moment has a phase, which
says what comes next, the deeds that have been done so far, and the world as they have left it. From
one moment to the next the run does at most one deed.

## Deeds

What a run does, apart from lines in the log, is a list of deeds: attempts of steps in their turn,
pauses, and retries. `Run.Does` says that deeds, done one after the other, lead from one world to
another; it does not mention the loops. The results among the deeds are the history of the run.

## Why moments

Laws of runs are invariants of moments. They are shown for one move at a time, and `Run.Reaches` is
the only induction over a run that they need. That moments are the right ones is the content of the
two main results: a run that gives a report has reached an end with this report, and a run that
fails has done so at a moment that it has reached, in one of the ways of `Run.Breaks`.

## Main definitions

* `Deed`, `historyOf` — what a run does, and the results among it
* `Run.Does` — deeds lead from one world to another
* `Run.Moment`, `Run.Moves`, `Run.Reaches` — the moments of a run
* `Run.Breaks` — how a run can fail at a moment

## Main results

* `Run.Reaches.does` — the deeds of a moment lead to its world
* `Run.execute_ok` — a run that gives a report has reached its end
* `Run.execute_error` — a run that fails has broken off at a moment, or its observer has
-/

namespace StepFlow

open Act

/-! ### Deeds -/

/-- What a run does, apart from lines in the log. -/
inductive Deed where
  /-- A step is attempted in its turn. -/
  | turn (result : StepResult)
  | pause (seconds : Double)
  /-- A step is attempted again. -/
  | retry (result : StepResult)

/-- The result that a deed leaves. -/
def Deed.result? : Deed → Option StepResult
  | turn x | retry x => some x
  | pause _ => none

/-- The results that deeds leave, in order. -/
def historyOf (deeds : List Deed) : List StepResult := deeds.filterMap Deed.result?

@[simp] theorem historyOf_nil : historyOf [] = [] := rfl

@[simp] theorem historyOf_append (ds es : List Deed) :
    historyOf (ds ++ es) = historyOf ds ++ historyOf es :=
  List.filterMap_append

@[simp] theorem historyOf_turn (x : StepResult) : historyOf [.turn x] = [x] := rfl

@[simp] theorem historyOf_pause (seconds : Double) : historyOf [.pause seconds] = [] := rfl

@[simp] theorem historyOf_retry (x : StepResult) : historyOf [.retry x] = [x] := rfl

namespace Run

/-- Deeds, done one after the other, lead from one world to another. An attempt finds the history of
the deeds before it. The first attempt of a step in its turn has number one, a retry counts what has
been attempted before. -/
inductive Does (r : Run) (out : Surroundings) (w : World) : List Deed → World → Prop
  | nothing : Does r out w [] w
  | log {ds w₁ w₂} : Does r out w ds w₁ → w₁.Logged w₂ → Does r out w ds w₂
  | turn {ds w₁ s x w₂} : Does r out w ds w₁ → r.workflow.steps[x.index]? = some s →
      (r.attempt (historyOf ds) x.index s 1).perform out w₁ = (.ok x, w₂) →
      Does r out w (ds ++ [.turn x]) w₂
  | pause {ds w₁} (seconds : Double) : Does r out w ds w₁ →
      Does r out w (ds ++ [.pause seconds]) { w₁ with events := w₁.events ++ [.slept seconds] }
  | retry {ds w₁ s x w₂} : Does r out w ds w₁ → r.workflow.steps[x.index]? = some s →
      (r.attempt (historyOf ds) x.index s (attemptsOf (historyOf ds) x.index + 1)).perform out w₁ =
        (.ok x, w₂) →
      Does r out w (ds ++ [.retry x]) w₂

/-! ### Moments -/

/-- How the failure of a step is to be repaired. -/
structure Repair where
  /-- The position of the step that has failed. -/
  failed : Nat
  /-- The position of the step that is attempted again. -/
  target : Nat
  maxRetries : Int
  delayMs : Int

/-- What comes next in a run. -/
inductive Phase where
  /-- The step at a position has its turn; past the last one the run is complete. -/
  | turn (index : Nat)
  /-- The step at a position has failed in its turn. -/
  | failed (index : Nat)
  /-- At most `left` retries are to come. -/
  | repair (p : Repair) (left : Nat)
  /-- After the pause before a retry; at most `left` more are to come after it. -/
  | retry (p : Repair) (left : Nat)
  | ended (ending : RunEnd)

/-- What comes next, what has been done, and the world as it has been left. -/
structure Moment where
  phase : Phase
  deeds : List Deed
  world : World

/-- What the failure of a step leads to. -/
inductive Verdict where
  | halt
  | proceed
  | repair (p : Repair)
  /-- What is declared nests too deep for it to be told why it is refused. -/
  | breakOff

/-- The verdict on the failure of the step at a position. -/
def verdict (r : Run) (index : Nat) (s : Step) : Verdict :=
  match Policy.read (some (index : Int)) s.onFailure with
  | .ok (some .proceed) => .proceed
  | .ok (some (.retry target maxRetries delayMs)) =>
    match target.resolve r.workflow.stepNames with
    | .ok i => .repair ⟨index, i, maxRetries, delayMs⟩
    | .error _ => .halt
  | .error .tooDeep => .breakOff
  | _ => .halt

/-- One move of a run. -/
inductive Moves (r : Run) (out : Surroundings) : Moment → Moment → Prop
  | finish {i ds w} : r.workflow.steps.length ≤ i →
      Moves r out ⟨.turn i, ds, w⟩ ⟨.ended .completed, ds, w⟩
  | succeed {i s ds w x w'} : r.workflow.steps[i]? = some s →
      (r.attempt (historyOf ds) i s 1).perform out w = (.ok x, w') → x.success = true →
      Moves r out ⟨.turn i, ds, w⟩ ⟨.turn (i + 1), ds ++ [.turn x], w'⟩
  | fail {i s ds w x w'} : r.workflow.steps[i]? = some s →
      (r.attempt (historyOf ds) i s 1).perform out w = (.ok x, w') → x.success = false →
      Moves r out ⟨.turn i, ds, w⟩ ⟨.failed i, ds ++ [.turn x], w'⟩
  | halt {i s ds w w'} : r.workflow.steps[i]? = some s → r.verdict i s = .halt → w.Logged w' →
      Moves r out ⟨.failed i, ds, w⟩ ⟨.ended (.halted s.name i), ds, w'⟩
  | proceed {i s ds w w'} : r.workflow.steps[i]? = some s → r.verdict i s = .proceed →
      w.Logged w' → Moves r out ⟨.failed i, ds, w⟩ ⟨.turn (i + 1), ds, w'⟩
  | repair {i s p ds w} : r.workflow.steps[i]? = some s → r.verdict i s = .repair p →
      Moves r out ⟨.failed i, ds, w⟩ ⟨.repair p p.maxRetries.toNat, ds, w⟩
  | exhaust {p s ds w w'} : r.workflow.steps[p.failed]? = some s → w.Logged w' →
      Moves r out ⟨.repair p 0, ds, w⟩ ⟨.ended (.halted s.name p.failed), ds, w'⟩
  | pass {p left ds w w'} : ¬0 < p.delayMs → w.Logged w' →
      Moves r out ⟨.repair p (left + 1), ds, w⟩ ⟨.retry p left, ds, w'⟩
  | pause {p left ds w w' seconds} : 0 < p.delayMs → pause p.delayMs = .ok seconds → w.Logged w' →
      out.sleep w'.readings seconds = none → Moves r out ⟨.repair p (left + 1), ds, w⟩
        ⟨.retry p left, ds ++ [.pause seconds], { w' with events := w'.events ++ [.slept seconds] }⟩
  | mend {p left t ds w x w'} : r.workflow.steps[p.target]? = some t →
      (r.attempt (historyOf ds) p.target t (attemptsOf (historyOf ds) p.target + 1)).perform out w =
        (.ok x, w') → x.success = true →
      Moves r out ⟨.retry p left, ds, w⟩ ⟨.turn (p.failed + 1), ds ++ [.retry x], w'⟩
  | miss {p left t ds w x w'} : r.workflow.steps[p.target]? = some t →
      (r.attempt (historyOf ds) p.target t (attemptsOf (historyOf ds) p.target + 1)).perform out w =
        (.ok x, w') → x.success = false →
      Moves r out ⟨.retry p left, ds, w⟩ ⟨.repair p left, ds ++ [.retry x], w'⟩

/-- The moments that a run begun in a world comes to. -/
inductive Reaches (r : Run) (out : Surroundings) (w : World) : Moment → Prop
  | start {w₁} : w.Logged w₁ → Reaches r out w ⟨.turn 0, [], w₁⟩
  | move {m m'} : Reaches r out w m → r.Moves out m m' → Reaches r out w m'

/-- A run fails at a moment: an attempt does not leave a result, a declaration nests too deep, the
number of retries cannot be written into the log, the pause before a retry has no number of seconds, or
the system does not wait so long. -/
inductive Breaks (r : Run) (out : Surroundings) : Moment → Fault → World → Prop
  | turn {i s ds w e w'} : r.workflow.steps[i]? = some s →
      (r.attempt (historyOf ds) i s 1).perform out w = (.error e, w') →
      Breaks r out ⟨.turn i, ds, w⟩ e w'
  | retry {p left t ds w e w'} : r.workflow.steps[p.target]? = some t →
      (r.attempt (historyOf ds) p.target t (attemptsOf (historyOf ds) p.target + 1)).perform out w =
        (.error e, w') →
      Breaks r out ⟨.retry p left, ds, w⟩ e w'
  | policy {i s ds w} : r.workflow.steps[i]? = some s → r.verdict i s = .breakOff →
      Breaks r out ⟨.failed i, ds, w⟩ .tooDeep w
  | count {p left ds w e} : integerText p.maxRetries = .error e →
      Breaks r out ⟨.repair p left, ds, w⟩ (.number e) w
  | pause {p left ds w e w'} : 0 < p.delayMs → pause p.delayMs = .error e → w.Logged w' →
      Breaks r out ⟨.repair p (left + 1), ds, w⟩ e w'
  | sleep {p left ds w w' seconds fault} : 0 < p.delayMs → pause p.delayMs = .ok seconds →
      w.Logged w' → out.sleep w'.readings seconds = some fault →
      Breaks r out ⟨.repair p (left + 1), ds, w⟩ (.wait fault) w'

variable {r : Run} {out : Surroundings} {w w₁ : World} {ds : List Deed}

/-! ### Verdicts -/

section

variable {i : Nat} {s : Step}

theorem read_of_verdict_proceed (h : r.verdict i s = .proceed) :
    Policy.read (some (i : Int)) s.onFailure = .ok (some .proceed) := by
  unfold verdict at h
  split at h
  · assumption
  · split at h <;> cases h
  · cases h
  · cases h

theorem read_of_verdict_repair {p : Repair} (h : r.verdict i s = .repair p) :
    ∃ target : RetryTarget,
      Policy.read (some (i : Int)) s.onFailure =
        .ok (some (.retry target p.maxRetries p.delayMs)) ∧
      target.resolve r.workflow.stepNames = .ok p.target ∧ p.failed = i := by
  unfold verdict at h
  split at h
  · cases h
  · split at h
    · cases h
      exact ⟨_, ‹_›, ‹_›, rfl⟩
    · cases h
  · cases h
  · cases h

theorem read_of_verdict_breakOff (h : r.verdict i s = .breakOff) :
    Policy.read (some (i : Int)) s.onFailure = .error .tooDeep := by
  unfold verdict at h
  split at h
  · cases h
  · split at h <;> cases h
  · assumption
  · cases h

/-- The run of an accepted workflow halts at a failure only when nothing else is declared, or when
it is told to stop. -/
theorem read_of_verdict_halt (hs : s.Accepted i r.workflow.stepNames) (h : r.verdict i s = .halt) :
    ∃ action, Policy.read (some (i : Int)) s.onFailure = .ok action ∧
      (action = none ∨ action = some .stop) := by
  obtain ⟨action, hread⟩ := hs.policy
  refine ⟨action, hread, ?_⟩
  rcases action with _ | _ | _ | ⟨target, maxRetries, delayMs⟩
  · exact .inl rfl
  · simp only [verdict, hread] at h
    cases h
  · exact .inr rfl
  · obtain ⟨j, hj, -⟩ := hs.target _ _ _ hread
    simp only [verdict, hread, hj] at h
    cases h

end

/-- The deeds of a moment lead to its world. -/
theorem Reaches.does {m : Moment} (h : r.Reaches out w m) : r.Does out w m.deeds m.world := by
  induction h with
  | start hlog => exact .log .nothing hlog
  | move _ hmove ih =>
    cases hmove with
    | finish _ => exact ih
    | succeed hs hx _ =>
      obtain ⟨-, rfl, -⟩ := labels_of_attempt_ok hx
      exact .turn ih hs hx
    | fail hs hx _ =>
      obtain ⟨-, rfl, -⟩ := labels_of_attempt_ok hx
      exact .turn ih hs hx
    | halt _ _ hlog => exact .log ih hlog
    | proceed _ _ hlog => exact .log ih hlog
    | repair _ _ => exact ih
    | exhaust _ hlog => exact .log ih hlog
    | pass _ hlog => exact .log ih hlog
    | pause _ _ hlog _ => exact .pause _ (.log ih hlog)
    | mend ht hx _ =>
      obtain ⟨-, hindex, -⟩ := labels_of_attempt_ok hx
      rw [← hindex] at ht hx
      exact .retry ih ht hx
    | miss ht hx _ =>
      obtain ⟨-, hindex, -⟩ := labels_of_attempt_ok hx
      rw [← hindex] at ht hx
      exact .retry ih ht hx

/-! ### From one activity to the next

The three recursive activities of a run are followed along their own recursion. Each of them starts
at a moment that the run has reached and ends at another one, or it fails at one. -/

/-- What a part of a run comes to: results that are the history of a moment that the run has
reached, whose phase is told by what else the part gives, or a failure at such a moment. -/
def Follows {α : Type} (r : Run) (out : Surroundings) (w : World) (phase : α → Phase) :
    Except Fault (List StepResult × α) × World → Prop
  | (.ok (results, v), w') => ∃ ds, historyOf ds = results ∧ r.Reaches out w ⟨phase v, ds, w'⟩
  | (.error e, w') => ∃ m, r.Reaches out w m ∧ r.Breaks out m e w'

/-- A line in the log may come first. -/
theorem Follows.of_log {α : Type} {phase : α → Phase} {severity : Severity} {message : String}
    {a : Act (List StepResult × α)}
    (h : ∀ w₂, w₁.Logged w₂ → r.Follows out w phase (a.perform out w₂)) :
    r.Follows out w phase ((do log severity message; a).perform out w₁) :=
  h _ ⟨_, rfl⟩

theorem perform_wait (delayMs : Int) (out : Surroundings) (w : World) :
    (wait delayMs).perform out w =
      if 0 < delayMs then
        match pause delayMs with
        | .ok seconds => (sleep seconds).perform out w
        | .error e => (.error e, w)
      else (.ok (), w) := by
  unfold wait
  split
  · rw [perform_bind, perform_ofExcept]
    cases pause delayMs <;> rfl
  · rfl

/-- The phase after retries for the failure of the step at position `index`. -/
def afterRecovery (index : Nat) (s : Step) (goesOn : Bool) : Phase :=
  if goesOn then .turn (index + 1) else .ended (.halted s.name index)

theorem follows_retry {p : Repair} {s t : Step} (hs : r.workflow.steps[p.failed]? = some s)
    (ht : r.workflow.steps[p.target]? = some t) {left : Nat} (number : Nat)
    (h : r.Reaches out w ⟨.repair p left, ds, w₁⟩) :
    r.Follows out w (afterRecovery p.failed s)
      ((r.retry s.name p.target t p.maxRetries p.delayMs left number (historyOf ds)).perform
        out w₁) := by
  induction left generalizing number ds w₁ with
  | zero =>
    simp only [retry, perform_bind, perform_ofExcept]
    cases hmost : integerText p.maxRetries with
    | error e => exact ⟨_, h, .count hmost⟩
    | ok most => exact ⟨ds, rfl, h.move (.exhaust hs ⟨_, rfl⟩)⟩
  | succ left ih =>
    -- the attempt that follows the pause, from any world in which the retry is due
    have attempted {ds w₂} (h : r.Reaches out w ⟨.retry p left, ds, w₂⟩) :
        r.Follows out w (afterRecovery p.failed s)
          ((do
            let result ← r.attempt (historyOf ds) p.target t
              (attemptsOf (historyOf ds) p.target + 1)
            let results := historyOf ds ++ [result]
            if result.success then return (results, true)
            else r.retry s.name p.target t p.maxRetries p.delayMs left (number + 1) results).perform
              out w₂) := by
      rcases hx : (r.attempt (historyOf ds) p.target t
        (attemptsOf (historyOf ds) p.target + 1)).perform out w₂ with ⟨e | x, w₃⟩
      · rw [perform_bind_of_error hx]
        exact ⟨_, h, .retry ht hx⟩
      · rw [perform_bind_of_ok hx]
        cases hsucc : x.success with
        | true => exact ⟨ds ++ [.retry x], by simp, h.move (.mend ht hx hsucc)⟩
        | false =>
          have := ih (number + 1) (h.move (.miss ht hx hsucc))
          rwa [historyOf_append, historyOf_retry] at this
    unfold retry
    cases hmost : integerText p.maxRetries with
    | error e => exact ⟨_, h, .count hmost⟩
    | ok most =>
      rw [mapError_ok, perform_bind_of_ok (perform_ofExcept _ _ _)]
      refine .of_log fun w₂ hlog => ?_
      rw [perform_bind, perform_wait]
      by_cases hpos : 0 < p.delayMs
      · rw [if_pos hpos]
        cases hpause : pause p.delayMs with
        | error e => exact ⟨_, h, .pause hpos hpause hlog⟩
        | ok seconds =>
          dsimp only
          cases hsleep : out.sleep w₂.readings seconds with
          | some fault =>
            rw [perform_sleep_of_refused hsleep]
            exact ⟨_, h, .sleep hpos hpause hlog hsleep⟩
          | none =>
            rw [perform_sleep hsleep]
            have := attempted (h.move (.pause hpos hpause hlog hsleep))
            rwa [historyOf_append, historyOf_pause, List.append_nil] at this
      · rw [if_neg hpos]
        exact attempted (h.move (.pass hpos hlog))

theorem follows_recover {i : Nat} {s : Step} (hs : r.workflow.steps[i]? = some s)
    (h : r.Reaches out w ⟨.failed i, ds, w₁⟩) :
    r.Follows out w (afterRecovery i s) ((r.recover i s (historyOf ds)).perform out w₁) := by
  unfold recover actionAfter
  cases hread : Policy.read (some (i : Int)) s.onFailure with
  | error e =>
    cases e with
    | tooDeep =>
      have hv : r.verdict i s = .breakOff := by simp only [verdict, hread]
      exact ⟨_, h, .policy hs hv⟩
    | _ =>
      have hv : r.verdict i s = .halt := by simp only [verdict, hread]
      exact ⟨ds, rfl, h.move (.halt hs hv (.trans ⟨_, rfl⟩ ⟨_, rfl⟩))⟩
  | ok action =>
    rw [perform_bind_of_ok (perform_pure _ _ _)]
    rcases action with _ | _ | _ | ⟨target, maxRetries, delayMs⟩
    · have hv : r.verdict i s = .halt := by simp only [verdict, hread]
      exact ⟨ds, rfl, h.move (.halt hs hv ⟨_, rfl⟩)⟩
    · have hv : r.verdict i s = .proceed := by simp only [verdict, hread]
      exact ⟨ds, rfl, h.move (.proceed hs hv ⟨_, rfl⟩)⟩
    · have hv : r.verdict i s = .halt := by simp only [verdict, hread]
      exact ⟨ds, rfl, h.move (.halt hs hv ⟨_, rfl⟩)⟩
    · cases hres : target.resolve r.workflow.stepNames with
      | error e =>
        have hv : r.verdict i s = .halt := by simp only [verdict, hread, hres]
        simp only [hres]
        exact ⟨ds, rfl, h.move (.halt hs hv ⟨_, rfl⟩)⟩
      | ok j =>
        have hv : r.verdict i s = .repair ⟨i, j, maxRetries, delayMs⟩ := by
          simp only [verdict, hread, hres]
        have hj : j < r.workflow.steps.length := by
          simpa using RetryTarget.resolve_lt hres
        simp only [hres, List.getElem?_eq_getElem hj]
        exact follows_retry (p := ⟨i, j, maxRetries, delayMs⟩) hs
          (List.getElem?_eq_getElem hj) 1 (h.move (.repair hs hv))

theorem follows_steps {i : Nat} {rest : List Step} (hrest : r.workflow.steps.drop i = rest)
    (h : r.Reaches out w ⟨.turn i, ds, w₁⟩) :
    r.Follows out w Phase.ended ((r.steps i rest (historyOf ds)).perform out w₁) := by
  induction rest generalizing i ds w₁ with
  | nil => exact ⟨ds, rfl, h.move (.finish (List.drop_eq_nil_iff.mp hrest))⟩
  | cons s rest ih =>
    have hs : r.workflow.steps[i]? = some s := by
      rw [← List.head?_drop, hrest, List.head?_cons]
    have hnext : r.workflow.steps.drop (i + 1) = rest := by
      rw [← List.tail_drop, hrest, List.tail_cons]
    unfold steps
    rcases hx : (r.attempt (historyOf ds) i s 1).perform out w₁ with ⟨e | x, w₂⟩
    · rw [perform_bind_of_error hx]
      exact ⟨_, h, .turn hs hx⟩
    · rw [perform_bind_of_ok hx]
      cases hsucc : x.success with
      | true =>
        have := ih hnext (h.move (.succeed hs hx hsucc))
        rwa [historyOf_append, historyOf_turn] at this
      | false =>
        have hrec := follows_recover hs (h.move (.fail hs hx hsucc))
        rw [historyOf_append, historyOf_turn] at hrec
        rcases hp : (r.recover i s (historyOf ds ++ [x])).perform out w₂ with
          ⟨e | ⟨results, goesOn⟩, w₃⟩
        · rw [hp] at hrec
          rw [if_neg Bool.false_ne_true, perform_bind_of_error hp]
          exact hrec
        · rw [hp] at hrec
          obtain ⟨ds', rfl, hreach⟩ := hrec
          cases goesOn with
          | true => simpa [perform_bind_of_ok hp] using ih hnext hreach
          | false => simpa [perform_bind_of_ok hp] using ⟨ds', rfl, hreach⟩

/-! ### Whole runs -/

/-- All steps of a run, from its beginning. -/
theorem follows_allSteps (hlog : w.Logged w₁) :
    r.Follows out w Phase.ended ((r.steps 0 r.workflow.steps []).perform out w₁) :=
  follows_steps (List.drop_zero ..) (.start hlog)

/-- **A run that gives a report has reached its end.** The report shows the history of that moment;
after it the observer of the run is told, and nothing else happens but lines in the log. -/
theorem execute_ok {report : Report} {w' : World}
    (h : r.execute.perform out w = (.ok report, w')) :
    ∃ ds w₁ w₂, r.Reaches out w ⟨.ended report.ending, ds, w₁⟩ ∧
      report.workflow = r.workflow.name ∧ report.results = historyOf ds ∧
      (notify r.hooks.onRunComplete (historyOf ds)).perform out w₁ = (.ok (), w₂) ∧
      w₂.Logged w' := by
  obtain ⟨_, w₀, hinfo, h⟩ := perform_bind_ok_iff.mp h
  have hlog : w.Logged w₀ := by cases hinfo; exact ⟨_, rfl⟩
  have hsteps : r.Follows out w Phase.ended _ := follows_allSteps hlog
  obtain ⟨outcome, w₂, hbody, h⟩ := perform_bind_ok_iff.mp h
  rw [perform_attempt_ok_iff] at hbody
  cases outcome with
  | error e => cases h
  | ok told =>
    have hreport : report = told ∧ w₂.Logged w' := by
      dsimp only at h
      split at h
      · obtain ⟨_, w₃, hlast, h⟩ := perform_bind_ok_iff.mp h
        cases hlast
        cases h
        exact ⟨rfl, _, rfl⟩
      · obtain ⟨_, w₃, hlast, h⟩ := perform_bind_ok_iff.mp h
        cases hlast
        cases h
        exact ⟨rfl, _, rfl⟩
    obtain ⟨rfl, hlogged⟩ := hreport
    obtain ⟨⟨results, ending⟩, w₁, hall, hbody⟩ := perform_bind_ok_iff.mp hbody
    obtain ⟨_, w₃, htold, hbody⟩ := perform_bind_ok_iff.mp hbody
    rw [hall] at hsteps
    obtain ⟨ds, rfl, hreach⟩ := hsteps
    cases hbody
    exact ⟨ds, w₁, w₂, hreach, rfl, rfl, htold, hlogged⟩

/-- **A run that fails has broken off.** The fault has escaped from a moment that the run has
reached, or from the observer that was told of its end. -/
theorem execute_error {e : Fault} {w' : World}
    (h : r.execute.perform out w = (.error e, w')) :
    ∃ cause, e = escaped cause ∧
      ((∃ m, r.Reaches out w m ∧ r.Breaks out m cause w') ∨
        ∃ ending ds w₁, r.Reaches out w ⟨.ended ending, ds, w₁⟩ ∧
          (notify r.hooks.onRunComplete (historyOf ds)).perform out w₁ = (.error cause, w')) := by
  rcases perform_bind_error_iff.mp h with hinfo | ⟨_, w₀, hinfo, h⟩
  · cases hinfo
  have hlog : w.Logged w₀ := by cases hinfo; exact ⟨_, rfl⟩
  have hsteps : r.Follows out w Phase.ended _ := follows_allSteps hlog
  rcases perform_bind_error_iff.mp h with hbody | ⟨outcome, w₂, hbody, h⟩
  · cases hbody
  rw [perform_attempt_ok_iff] at hbody
  cases outcome with
  | ok report =>
    -- after a report only log lines are written, which cannot fail
    dsimp only at h
    split at h
    · rcases perform_bind_error_iff.mp h with hlast | ⟨_, w₃, -, h⟩
      · cases hlast
      · cases h
    · rcases perform_bind_error_iff.mp h with hlast | ⟨_, w₃, -, h⟩
      · cases hlast
      · cases h
  | error cause =>
    cases h
    refine ⟨cause, rfl, ?_⟩
    rcases perform_bind_error_iff.mp hbody with hall | ⟨⟨results, ending⟩, w₁, hall, hbody⟩
    · rw [hall] at hsteps
      exact .inl hsteps
    · rw [hall] at hsteps
      obtain ⟨ds, rfl, hreach⟩ := hsteps
      rcases perform_bind_error_iff.mp hbody with htold | ⟨_, w₂, -, hbody⟩
      · exact .inr ⟨ending, ds, w₁, hreach, htold⟩
      · cases hbody

/-! ### A run to look at -/

/-- The first step fails, since it has no command, and the second one is attempted in its place. -/
def mended : Run where
  workflow := {
    name := "release"
    steps := [
      { name := "build", type := .str "command", onFailure := .action (.retry (.index 1) 2 0) },
      { name := "approve", type := .str "human_approval" } ] }

theorem check_mended : mended.workflow.check = .ok () := by rfl

theorem exists_report_mended :
    ∃ report w', mended.execute.perform .silent {} = (.ok report, w') :=
  exists_ok_of_isOk (by decide +kernel)

end Run

end StepFlow
