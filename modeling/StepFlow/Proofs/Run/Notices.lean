import StepFlow.Proofs.Run.Containment
import StepFlow.Proofs.Run.Footprint
import StepFlow.Run.Observer
import Mathlib.Algebra.Group.Int.Defs

/-!
# What observers are told

Observers are told of every attempt before it is made and after it has left a result, of a failure
once more, and of the end of the run. This file says what they are told in a whole run, and in which
order.

An observer may do anything when it is told of something, so that in general nothing can be said
about what has been told to whom. `Hooks.noting` makes observers note every notice before they do
what they do, and the notices of a run are then part of the world that it leaves. Which hooks are
given at all is left open: a notice that nobody hears is not told.

## Observers that break down

`Hooks.breakingAt` makes observers fail at a notice that is told by its number. Up to this notice the
run does the same as it does with the observers as they are, and there it breaks off. `Act.Cut` says
this of two activities. It is closed under sequencing, so that it goes from single notices to whole
runs along the recursion of these.

## Main definitions

* `World.notices` — what has been told, in order
* `Hooks.noting`, `Hooks.breakingAt` — observers that note what they are told, and that break down
* `Run.callsOf` — what observers are to be told of the results of a run
* `Act.Cut` — an activity does the same as another one up to a notice, at which it fails
* `Run.Told` — a run, and what its observers have been told

## Main results

* `Run.Does.notices_eq` — deeds tell of the results among them
* `Run.steps_cut`, `Run.body_cut` — a run does the same until its observers break down
* `Run.execute_told` — what the observers of a run of an accepted workflow are told
* `Run.end_untold_endless` — a run that breaks off does not tell of its end
-/

namespace StepFlow

open Act

/-! ### Notices -/

/-- The notice that an event is. -/
def Event.notice? : Event → Option Notice
  | .noticed n => some n
  | _ => none

/-- The result that a notice of a completed attempt tells. -/
def Notice.completed? : Notice → Option StepResult
  | .stepCompleted _ x => some x
  | _ => none

/-- The notice of the end of a run. -/
def Notice.tellsEnd : Notice → Bool
  | .runCompleted _ => true
  | _ => false

/-- What observers have been told, in order. -/
def World.notices (w : World) : List Notice := w.events.filterMap Event.notice?

/-- Nothing has been told from `w` to `w'`. -/
def World.SameNotices (w w' : World) : Prop := w'.notices = w.notices

theorem Event.notice?_of_isCall {e : Event} (h : e.isCall) : e.notice? = none := by
  cases e <;> first | rfl | simp [isCall] at h

theorem World.notices_record (w : World) (e : Event) :
    ({ w with events := w.events ++ [e] } : World).notices = w.notices ++ e.notice?.toList := by
  rw [notices, List.filterMap_append]
  cases h : e.notice? <;> simp [notices, h]

instance : AllowsCalls World.SameNotices where
  refl _ := rfl
  trans _ _ _ h h' := Eq.trans h' h
  log _ _ := rfl
  clock _ _ := rfl
  call w e h := by
    rw [World.SameNotices, World.notices_record, Event.notice?_of_isCall h]
    exact List.append_nil _
  change _ _ := rfl

theorem World.Logged.sameNotices {w w' : World} (h : w.Logged w') : w.SameNotices w' := by
  obtain ⟨lines, rfl⟩ := h
  rfl

/-- Something may have been told from `w` to `w'`. -/
def World.Hears (w w' : World) : Prop := w.notices <+: w'.notices

instance : IsPreorder World World.Hears where
  refl w := List.prefix_refl w.notices
  trans _ _ _ h h' := List.IsPrefix.trans h h'

/-- Observers are told nothing, whatever becomes of an activity that succeeds. -/
def Act.Silent (a : Act Unit) : Prop :=
  ∀ out w, ∃ w', a.perform out w = (.ok (), w') ∧ w.SameNotices w'

/-! ### Observers -/

namespace Hooks

/-- What is done when there is something to tell, if anybody hears it. -/
def answer (h : Hooks) : Notice → Option (Act Unit)
  | .stepStarted s i => h.onStepStart.map fun f => f s i
  | .stepCompleted s x => h.onStepComplete.map fun f => f s x
  | .stepFailed s e => h.onError.map fun f => f s e
  | .runCompleted xs => h.onRunComplete.map fun f => f xs

/-- Somebody hears a notice. -/
def hears (h : Hooks) (n : Notice) : Bool := (h.answer n).isSome

/-- Tell observers something. -/
def tell (h : Hooks) (n : Notice) : Act Unit := (h.answer n).getD (pure ())

/-- Observers that do something else in place of what they do when they are told of something. -/
def wrap (h : Hooks) (g : Notice → Act Unit → Act Unit) : Hooks where
  onStepStart := h.onStepStart.map fun f s i => g (.stepStarted s i) (f s i)
  onStepComplete := h.onStepComplete.map fun f s x => g (.stepCompleted s x) (f s x)
  onError := h.onError.map fun f s e => g (.stepFailed s e) (f s e)
  onRunComplete := h.onRunComplete.map fun f xs => g (.runCompleted xs) (f xs)

/-- The same observers, which also note what they are told. -/
def noting (h : Hooks) : Hooks :=
  h.wrap fun n a => do
    record (.noticed n)
    a

/-- The same observers, but at the notice with a number they do something else. -/
def breakingAt (h : Hooks) (number : Nat) (k : Notice → Act Unit) : Hooks :=
  h.wrap fun n a => do
    record (.noticed n)
    if (← get).notices.length = number then k n else a

/-- Observers that only observe: they do not fail, and tell nothing to others. -/
def Silent (h : Hooks) : Prop := ∀ n, ∀ a ∈ h.answer n, a.Silent

/-- Observers of everything that do nothing. -/
def idle : Hooks where
  onStepStart := some fun _ _ => pure ()
  onStepComplete := some fun _ _ => pure ()
  onError := some fun _ _ => pure ()
  onRunComplete := some fun _ => pure ()

theorem silent_idle : idle.Silent := by
  intro n a ha out w
  cases n <;> (cases ha; exact ⟨w, rfl, rfl⟩)

/-- An observer that does nothing but note is one of these. -/
theorem noting_idle : idle.noting = ({} : Observer).hooks := rfl

theorem answer_wrap (h : Hooks) (g : Notice → Act Unit → Act Unit) (n : Notice) :
    (h.wrap g).answer n = (h.answer n).map (g n) := by
  cases n <;> simp [answer, wrap, Function.comp_def]

variable {h : Hooks} {n : Notice}

/-- A notice is noted if somebody hears it, and observers that only observe do nothing else that
matters. -/
theorem perform_tell_noting (hsilent : h.Silent) (n : Notice) (out : Surroundings) (w : World) :
    ∃ w', (h.noting.tell n).perform out w = (.ok (), w') ∧
      w'.notices = w.notices ++ [n].filter h.hears := by
  rw [tell, noting, answer_wrap]
  cases ha : h.answer n with
  | none => exact ⟨w, rfl, by simp [hears, ha]⟩
  | some a =>
    obtain ⟨w', hw', hsame⟩ := hsilent n a ha out { w with events := w.events ++ [.noticed n] }
    refine ⟨w', (perform_bind_of_ok (perform_record _ out w) _).trans hw', ?_⟩
    rw [hsame, World.notices_record]
    simp [hears, ha, Event.notice?]

theorem perform_tellAll_noting (hsilent : h.Silent) (ns : List Notice) (out : Surroundings)
    (w : World) :
    ∃ w', (ns.forM h.noting.tell).perform out w = (.ok (), w') ∧
      w'.notices = w.notices ++ ns.filter h.hears := by
  induction ns generalizing w with
  | nil => exact ⟨w, rfl, (List.append_nil _).symm⟩
  | cons n ns ih =>
    obtain ⟨w₁, htell, hw₁⟩ := perform_tell_noting hsilent n out w
    obtain ⟨w₂, htells, hw₂⟩ := ih w₁
    refine ⟨w₂, (perform_bind_of_ok htell _).trans htells, ?_⟩
    rw [hw₂, hw₁, List.append_assoc, ← List.filter_append]
    rfl

end Hooks

/-! ### Cutting an activity off

The number of notices tells where an activity is to be cut off. The same activity is run twice, with
observers that only observe and with observers that break down, from a world in which the notice that
matters is still to come. -/

namespace Act

/-- What is done in place of an observer fails, with a fault that depends on the notice, and tells
nothing to others. -/
def Fails (k : Notice → Act Unit) (fault : Notice → Fault) : Prop :=
  ∀ n out w, ∃ w', (k n).perform out w = (.error (fault n), w') ∧ w.SameNotices w'

/-- The second activity does the same as the first, unless this comes to the notice with a number:
there it fails. -/
structure Cut {α : Type} (number : Nat) (fault : Notice → Fault) (a b : Act α) : Prop where
  hears : Respects World.Hears a
  cases : ∀ out w, w.notices.length < number →
    (b.perform out w = a.perform out w ∧ (a.perform out w).2.notices.length < number) ∨
    ∃ ns n w', b.perform out w = (.error (fault n), w') ∧ w'.notices = ns ++ [n] ∧
      (ns ++ [n]).length = number ∧ ns ++ [n] <+: (a.perform out w).2.notices

namespace Cut

variable {α β : Type} {number : Nat} {fault : Notice → Fault}

/-- An activity that tells nothing is not cut off. -/
theorem same {a : Act α} (h : Respects World.SameNotices a) : Cut number fault a a where
  hears out w := by
    have hsame : w.SameNotices (a.perform out w).2 := h out w
    exact ⟨[], (List.append_nil _).trans hsame.symm⟩
  cases out w hw := by
    have hsame : w.SameNotices (a.perform out w).2 := h out w
    exact .inl ⟨rfl, by rw [hsame]; exact hw⟩

theorem bind {a b : Act α} {f g : α → Act β} (h : Cut number fault a b)
    (hf : ∀ v, Cut number fault (f v) (g v)) : Cut number fault (a >>= f) (b >>= g) where
  hears := h.hears.bind fun v => (hf v).hears
  cases out w hw := by
    rcases hrun : a.perform out w with ⟨e | v, w₁⟩
    · rcases h.cases out w hw with ⟨hb, hlt⟩ | ⟨ns, n, w', hb, hns, hlength, hprefix⟩
      · rw [hrun] at hb hlt
        rw [perform_bind_of_error hb, perform_bind_of_error hrun]
        exact .inl ⟨rfl, hlt⟩
      · rw [hrun] at hprefix
        rw [perform_bind_of_error hb, perform_bind_of_error hrun]
        exact .inr ⟨ns, n, w', rfl, hns, hlength, hprefix⟩
    · rcases h.cases out w hw with ⟨hb, hlt⟩ | ⟨ns, n, w', hb, hns, hlength, hprefix⟩
      · rw [hrun] at hb hlt
        rw [perform_bind_of_ok hb, perform_bind_of_ok hrun]
        exact (hf v).cases out w₁ hlt
      · rw [hrun] at hprefix
        rw [perform_bind_of_error hb, perform_bind_of_ok hrun]
        -- what is told later comes after the notice that matters
        exact .inr ⟨ns, n, w', rfl, hns, hlength, hprefix.trans ((hf v).hears out w₁)⟩

theorem ite {c : Prop} [Decidable c] {a b a' b' : Act α} (h : Cut number fault a b)
    (h' : Cut number fault a' b') :
    Cut number fault (if c then a else a') (if c then b else b') := by
  split
  · exact h
  · exact h'

theorem forM {ι : Type} {xs : List ι} {f g : ι → Act PUnit}
    (h : ∀ x, Cut number fault (f x) (g x)) :
    Cut number fault (xs.forM f) (xs.forM g) := by
  induction xs with
  | nil => exact same (.pure _)
  | cons x xs ih => exact bind (h x) fun _ => ih

/-- Observers that break down at a notice cut off what is done when it is told. -/
theorem tell {h : Hooks} (hsilent : h.Silent) {k : Notice → Act Unit} (hk : Fails k fault)
    (n : Notice) : Cut number fault (h.noting.tell n) ((h.breakingAt number k).tell n) where
  hears out w := by
    obtain ⟨w', hw', hnotices⟩ := Hooks.perform_tell_noting hsilent n out w
    rw [World.Hears, hw', hnotices]
    exact List.prefix_append _ _
  cases out w hw := by
    rw [Hooks.tell, Hooks.tell, Hooks.noting, Hooks.breakingAt, Hooks.answer_wrap,
      Hooks.answer_wrap]
    cases ha : h.answer n with
    | none => exact .inl ⟨rfl, hw⟩
    | some a =>
      have hnoted : ({ w with events := w.events ++ [.noticed n] } : World).notices =
          w.notices ++ [n] := w.notices_record _
      simp only [Option.map_some, Option.getD_some, perform_bind, perform_record, perform_get,
        hnoted]
      obtain ⟨w₁, hrun, hsame⟩ := hsilent n a ha out { w with events := w.events ++ [.noticed n] }
      have hw₁ : w₁.notices = w.notices ++ [n] := hsame.trans hnoted
      by_cases hnumber : (w.notices ++ [n]).length = number
      · obtain ⟨w₂, hfails, hsame₂⟩ := hk n out { w with events := w.events ++ [.noticed n] }
        rw [if_pos hnumber, hrun]
        exact .inr ⟨w.notices, n, w₂, hfails, hsame₂.trans hnoted, hnumber,
          hw₁ ▸ List.prefix_refl _⟩
      · rw [if_neg hnumber, hrun]
        refine .inl ⟨rfl, ?_⟩
        rw [hw₁]
        rw [List.length_append, List.length_singleton] at hnumber ⊢
        omega

end Cut

end Act

namespace Run

variable {r : Run} {h : Hooks} {out : Surroundings} {w w' : World}

/-! ### What a run has to tell -/

/-- What is told of an attempt after it has left a result. -/
def noticesAfter (s : Step) (x : StepResult) : List Notice :=
  .stepCompleted s x :: (x.error.map (.stepFailed s)).toList

/-- What is told of the attempt of a step: that it begins, that it has left a result, and the failure
if it has failed. -/
def noticesOf (s : Step) (x : StepResult) : List Notice :=
  .stepStarted s x.index :: noticesAfter s x

/-- What is told of results, each of which is one of the step at its position. -/
def callsOf (r : Run) (results : List StepResult) : List Notice :=
  results.flatMap fun x => (r.workflow.steps[x.index]?.map (noticesOf · x)).getD []

@[simp] theorem callsOf_append (r : Run) (xs ys : List StepResult) :
    r.callsOf (xs ++ ys) = r.callsOf xs ++ r.callsOf ys :=
  List.flatMap_append

theorem callsOf_singleton {s : Step} {x : StepResult} (hs : r.workflow.steps[x.index]? = some s) :
    r.callsOf [x] = noticesOf s x := by
  simp [callsOf, hs]

/-- Of each result it is told once that it has been left. -/
theorem Does.completed_callsOf {ds : List Deed} (hdoes : r.Does out w ds w') :
    (r.callsOf (historyOf ds)).filterMap Notice.completed? = historyOf ds := by
  have hone {s : Step} {x : StepResult} (hs : r.workflow.steps[x.index]? = some s) :
      (r.callsOf [x]).filterMap Notice.completed? = [x] := by
    rw [callsOf_singleton hs, noticesOf, noticesAfter]
    cases x.error <;> rfl
  induction hdoes with
  | nothing => rfl
  | log _ _ ih => exact ih
  | turn _ hs _ ih =>
    rw [historyOf_append, historyOf_turn, callsOf_append, List.filterMap_append, ih, hone hs]
  | pause _ _ ih => rwa [historyOf_append, historyOf_pause, List.append_nil]
  | retry _ hs _ ih =>
    rw [historyOf_append, historyOf_retry, callsOf_append, List.filterMap_append, ih, hone hs]

/-- An attempt tells its observers what there is to tell. -/
theorem attempt_eq (r : Run) (results : List StepResult) (index : Nat) (s : Step) (number : Nat) :
    r.attempt results index s number = do
      let type ← Act.ofExcept s.type.text
      info <| s!"Step {index + 1}/{r.workflow.steps.length}: {s.name} ({type})"
        ++ (if 1 < number then s!" attempt {number}" else "")
      r.hooks.tell (.stepStarted s index)
      let x ← s.execute r.settings (r.scope results) index number
      (noticesAfter s x).forM r.hooks.tell
      return x := by
  have hnotify {α : Type} (hook : Option (α → Act Unit)) (v : α) :
      notify hook v = (hook.map (· v)).getD (pure ()) := by
    cases hook <;> rfl
  refine bind_congr fun type => bind_congr fun _ => ?_
  rw [hnotify, Option.map_map]
  refine bind_congr fun _ => bind_congr fun x => ?_
  rw [hnotify, Option.map_map, noticesAfter]
  cases x.error with
  | none =>
    simp only [Option.map_none, Option.toList_none, List.forM, bind_assoc, pure_bind]
    rfl
  | some e =>
    simp only [Option.map_some, Option.toList_some, List.forM, bind_assoc, pure_bind, hnotify,
      Option.map_map]
    rfl

theorem notify_onRunComplete (h : Hooks) (results : List StepResult) :
    notify h.onRunComplete results = h.tell (.runCompleted results) := by
  unfold Hooks.tell Hooks.answer notify
  cases h.onRunComplete <;> rfl

/-- The world in which a run begins its first step. -/
def begun (r : Run) (w : World) : World :=
  { w with logs := w.logs ++
      [⟨.info, s!"Running workflow '{r.workflow.name}' ({r.workflow.steps.length} steps)"⟩] }

/-- After its steps and the notice of its end a run only writes to the log, and a fault that escapes
from these ends it. -/
theorem execute_of_body {outcome : Except Fault Report} {w₁ : World}
    (hbody : r.body.perform out (r.begun w) = (outcome, w₁)) :
    w₁.Logged (r.execute.perform out w).2 ∧
      ∀ e, outcome = .error e → r.execute.perform out w = (.error (escaped e), w₁) := by
  have hbegun : (info s!"Running workflow '{r.workflow.name}' ({r.workflow.steps.length} steps)"
      ).perform out w = (.ok (), r.begun w) := rfl
  rw [execute, perform_bind_of_ok hbegun, perform_bind_of_ok (perform_attempt_ok_iff.mpr hbody)]
  cases outcome with
  | error e => exact ⟨.refl w₁, fun _ h => by cases h; rfl⟩
  | ok report =>
    refine ⟨?_, nofun⟩
    dsimp only
    cases report.ending with
    | completed => exact ⟨_, rfl⟩
    | halted name i => exact ⟨_, rfl⟩

theorem wait_sameNotices (delayMs : Int) : Respects World.SameNotices (wait delayMs) := by
  refine .ite (fun _ => .bind (.ofExcept _) fun _ => ?_) fun _ => .pure _
  rename_i seconds
  intro out w
  cases hsleep : out.sleep w.readings seconds with
  | some fault =>
    rw [perform_sleep_of_refused hsleep]
    rfl
  | none =>
    rw [perform_sleep hsleep, World.SameNotices, World.notices_record]
    exact List.append_nil _

/-! ### Observers that only observe -/

section

variable (hacc : r.workflow.errors = .ok []) (hsilent : h.Silent) (hr : r.hooks = h.noting)

include hacc hsilent hr

/-- An attempt leaves a result and tells of it. -/
theorem exists_attempt_noting {i : Nat} {s : Step} (hs : r.workflow.steps[i]? = some s)
    (results : List StepResult) (number : Nat) (out : Surroundings) (w : World) :
    ∃ x w', (r.attempt results i s number).perform out w = (.ok x, w') ∧
      w'.notices = w.notices ++ (noticesOf s x).filter h.hears := by
  obtain ⟨type, htype⟩ := (Workflow.accepted_of_errors hacc hs).type
  obtain ⟨text, htext⟩ := Step.exists_typeText htype
  obtain ⟨w₁, hlog, hlogged⟩ := logged_log .info
    (s!"Step {i + 1}/{r.workflow.steps.length}: {s.name} ({text})"
      ++ (if 1 < number then s!" attempt {number}" else "")) out w
  obtain ⟨w₂, hstart, hw₂⟩ := Hooks.perform_tell_noting hsilent (.stepStarted s i) out w₁
  obtain ⟨x, w₃, hx, -, hindex, -⟩ :=
    Step.perform_execute htype r.settings (r.scope results) i number out w₂
  have hw₃ : w₂.SameNotices w₃ :=
    (s.execute_respects r.settings (r.scope results) i number).of_perform hx
  obtain ⟨w₄, hafter, hw₄⟩ := Hooks.perform_tellAll_noting hsilent (noticesAfter s x) out w₃
  refine ⟨x, w₄, ?_, ?_⟩
  · simp only [attempt_eq, hr, htext, perform_bind, perform_ofExcept, info, hlog,
      hstart, hx, hafter, perform_pure]
  · rw [hw₄, hw₃, hw₂, hlogged.sameNotices, noticesOf, hindex, List.append_assoc,
      ← List.filter_append]
    rfl

/-- Deeds tell of the results among them. -/
theorem Does.notices_eq {ds : List Deed} (hdoes : r.Does out w ds w') :
    w'.notices = w.notices ++ (r.callsOf (historyOf ds)).filter h.hears := by
  induction hdoes with
  | nothing => exact (List.append_nil _).symm
  | log _ hlog ih => rw [hlog.sameNotices, ih]
  | @turn ds w₁ s x w₂ _ hs hx ih =>
    obtain ⟨x', w₂', hx', hw₂⟩ := exists_attempt_noting hacc hsilent hr hs (historyOf ds) 1 out w₁
    cases hx.symm.trans hx'
    simp only [hw₂, ih, historyOf_append, historyOf_turn, callsOf_append, callsOf_singleton hs,
      List.filter_append, List.append_assoc]
  | pause seconds _ ih =>
    rw [World.notices_record, ih, historyOf_append, historyOf_pause, List.append_nil]
    exact List.append_nil _
  | @retry ds w₁ s x w₂ _ hs hx ih =>
    obtain ⟨x', w₂', hx', hw₂⟩ := exists_attempt_noting hacc hsilent hr hs (historyOf ds)
      (attemptsOf (historyOf ds) x.index + 1) out w₁
    cases hx.symm.trans hx'
    simp only [hw₂, ih, historyOf_append, historyOf_retry, callsOf_append, callsOf_singleton hs,
      List.filter_append, List.append_assoc]

/-- A run that gives a report has told of its results, and then of its end. -/
theorem notices_of_report {report : Report} (hrun : r.execute.perform out w = (.ok report, w')) :
    w'.notices = w.notices ++
        (r.callsOf report.results ++ [Notice.runCompleted report.results]).filter h.hears ∧
      (r.callsOf report.results).filterMap Notice.completed? = report.results := by
  obtain ⟨ds, w₁, w₂, hreach, -, hresults, htold, hlogged⟩ := execute_ok hrun
  obtain ⟨w₃, htold', hw₃⟩ :=
    Hooks.perform_tell_noting hsilent (.runCompleted (historyOf ds)) out w₁
  rw [notify_onRunComplete, hr] at htold
  cases htold.symm.trans htold'
  have hdoes := hreach.does.notices_eq hacc hsilent hr
  rw [hresults]
  refine ⟨?_, hreach.does.completed_callsOf⟩
  rw [hlogged.sameNotices, hw₃, hdoes, List.append_assoc, ← List.filter_append]

/-- A run that gives no report has told of its results until then. -/
theorem notices_of_fault {e : Fault} (hrun : r.execute.perform out w = (.error e, w')) :
    ∃ m cause, e = .execution cause.message ∧ r.Reaches out w m ∧ r.Overflows out m cause ∧
      w'.notices = w.notices ++ (r.callsOf (historyOf m.deeds)).filter h.hears := by
  have hattempts (i : Nat) (s : Step) (hs : r.workflow.steps[i]? = some s)
      (results : List StepResult) (number : Nat) (w : World) :
      ∃ x w', (r.attempt results i s number).perform out w = (.ok x, w') := by
    obtain ⟨x, w', hx, -⟩ := exists_attempt_noting hacc hsilent hr hs results number out w
    exact ⟨x, w', hx⟩
  obtain ⟨cause, rfl, ⟨m, hreach, hbreaks⟩ | ⟨ending, ds, w₁, -, htold⟩⟩ := execute_error hrun
  · obtain ⟨hover, hlogged⟩ := overflows_of_breaks_of_attempts hacc hattempts hreach hbreaks
    refine ⟨m, cause, hover.escaped_eq, hreach, hover, ?_⟩
    rw [hlogged.sameNotices]
    exact hreach.does.notices_eq hacc hsilent hr
  · obtain ⟨w₂, htold', -⟩ :=
      Hooks.perform_tell_noting hsilent (.runCompleted (historyOf ds)) out w₁
    rw [notify_onRunComplete, hr] at htold
    cases htold.symm.trans htold'

end

/-! ### Observers that break down -/

section

variable {k : Notice → Act Unit} {fault : Notice → Fault} {number : Nat}
  (hsilent : h.Silent) (hk : Fails k fault)

include hsilent hk

theorem attempt_cut (results : List StepResult) (index : Nat) (s : Step) (n : Nat) :
    Cut number fault ({ r with hooks := h.noting }.attempt results index s n)
      ({ r with hooks := h.breakingAt number k }.attempt results index s n) := by
  rw [attempt_eq, attempt_eq]
  refine .bind (.same (.ofExcept _)) fun type => .bind (.same (log_respects _ _)) fun _ => ?_
  refine .bind (.tell hsilent hk _) fun _ => .bind (.same (s.execute_respects _ _ _ _)) fun x => ?_
  exact .bind (.forM (.tell hsilent hk)) fun _ => .same (.pure _)

theorem retry_cut (failed : String) (index : Nat) (target : Step) (maxRetries delayMs : Int)
    (left n : Nat) (results : List StepResult) :
    Cut number fault
      ({ r with hooks := h.noting }.retry failed index target maxRetries delayMs left n results)
      ({ r with hooks := h.breakingAt number k }.retry failed index target maxRetries delayMs left n
        results) := by
  induction left generalizing n results with
  | zero =>
    exact .bind (.same (.ofExcept _)) fun _ => .bind (.same (log_respects _ _)) fun _ =>
      .same (.pure _)
  | succ left ih =>
    refine .bind (.same (.ofExcept _)) fun _ => .bind (.same (log_respects _ _)) fun _ => ?_
    refine .bind (.same (wait_sameNotices delayMs)) fun _ => ?_
    exact .bind (attempt_cut hsilent hk _ _ _ _) fun x => .ite (.same (.pure _)) (ih _ _)

theorem recover_cut (index : Nat) (s : Step) (results : List StepResult) :
    Cut number fault ({ r with hooks := h.noting }.recover index s results)
      ({ r with hooks := h.breakingAt number k }.recover index s results) := by
  refine .bind (.same ?_) fun action => ?_
  · unfold actionAfter
    split
    · exact .pure _
    · exact .bind (.ofExcept _) fun _ => .bind (log_respects _ _) fun _ => .pure _
  · have hends (severity : Severity) (message : String) (goesOn : Bool) :
        Cut number fault (do log severity message; return (results, goesOn))
          (do log severity message; return (results, goesOn)) :=
      .bind (.same (log_respects _ _)) fun _ => .same (.pure _)
    rcases action with _ | _ | _ | ⟨target, maxRetries, delayMs⟩
    · exact hends _ _ _
    · exact hends _ _ _
    · exact hends _ _ _
    · dsimp only
      cases target.resolve r.workflow.stepNames with
      | error e => exact hends _ _ _
      | ok i =>
        dsimp only
        cases r.workflow.steps[i]? with
        | none => exact .same (.pure _)
        | some t => exact retry_cut hsilent hk _ _ _ _ _ _ _ _

theorem steps_cut (index : Nat) (rest : List Step) (results : List StepResult) :
    Cut number fault ({ r with hooks := h.noting }.steps index rest results)
      ({ r with hooks := h.breakingAt number k }.steps index rest results) := by
  induction rest generalizing index results with
  | nil => exact .same (.pure _)
  | cons s rest ih =>
    refine .bind (attempt_cut hsilent hk _ _ _ _) fun x => .ite (ih _ _) ?_
    exact .bind (recover_cut hsilent hk _ _ _) fun p => .ite (ih _ _) (.same (.pure _))

theorem body_cut : Cut number fault { r with hooks := h.noting }.body
    { r with hooks := h.breakingAt number k }.body := by
  refine .bind (steps_cut hsilent hk _ _ _) fun p => ?_
  simp only [notify_onRunComplete]
  exact .bind (.tell hsilent hk _) fun _ => .same (.pure _)

/-- A run fails at the notice at which its observers break down, if it comes to this. -/
theorem execute_cut (out : Surroundings) (hw : w.notices.length < number) :
    ({ r with hooks := h.noting }.execute.perform out w).2.notices.length < number ∨
      ∃ ns n w', { r with hooks := h.breakingAt number k }.execute.perform out w =
          (.error (escaped (fault n)), w') ∧ w'.notices = ns ++ [n] ∧
        (ns ++ [n]).length = number ∧
        ns ++ [n] <+: ({ r with hooks := h.noting }.execute.perform out w).2.notices := by
  have hlogged : (({ r with hooks := h.noting }.body.perform out (r.begun w)).2).Logged
      ({ r with hooks := h.noting }.execute.perform out w).2 := (execute_of_body rfl).1
  have hcut : Cut number fault { r with hooks := h.noting }.body
      { r with hooks := h.breakingAt number k }.body := body_cut hsilent hk
  rw [hlogged.sameNotices]
  rcases hcut.cases out (r.begun w) hw with
    ⟨-, hlt⟩ | ⟨ns, n, w', hbody, hns, hlength, hprefix⟩
  · exact .inl hlt
  · exact .inr ⟨ns, n, w', (execute_of_body hbody).2 _ rfl, hns, hlength, hprefix⟩

end

/-- When an observer breaks down at one of the calls of a run, this call is the last one. -/
theorem breaks_of_run (hsilent : h.Silent) {outcome : Except Fault Report} {calls : List Notice}
    (hrun : { r with hooks := h.noting }.execute.perform out w = (outcome, w'))
    (hcalls : w'.notices = w.notices ++ calls) (k : Notice → Act Unit) (fault : Notice → Fault)
    (hk : Fails k fault) (j : Nat) (n : Notice) (hn : calls[j]? = some n)
    (hordinary : passesOn (fault n) = false) :
    ∃ w', { r with hooks := h.breakingAt (w.notices.length + j + 1) k }.execute.perform out w =
        (.error (.execution (fault n).message), w') ∧
      w'.notices = w.notices ++ calls.take (j + 1) := by
  obtain ⟨hj, hjn⟩ := List.getElem?_eq_some_iff.mp hn
  have hbefore : w.notices.length < w.notices.length + j + 1 := by omega
  rcases execute_cut (r := r) hsilent hk out hbefore with
    hlt | ⟨ns, last, w₁, hbroken, hns, hlength, hprefix⟩
  · simp only [hrun, hcalls, List.length_append] at hlt
    omega
  · simp only [hrun, hcalls] at hprefix
    have htake : ns ++ [last] = (w.notices ++ calls.take j) ++ [n] := by
      rw [List.prefix_iff_eq_take.mp hprefix, hlength, Nat.add_assoc, List.take_length_add_append,
        List.take_succ_eq_append_getElem hj, hjn, List.append_assoc]
    obtain ⟨-, hlast⟩ := List.append_inj' htake rfl
    cases hlast
    refine ⟨w₁, by rw [hbroken, escaped, hordinary]; rfl, ?_⟩
    rw [hns, htake, List.take_succ_eq_append_getElem hj, hjn, List.append_assoc]

/-! ### Whole runs -/

/-- A run with observers that only observe, begun in a world, and what they have been told. -/
structure Told (r : Run) (h : Hooks) (out : Surroundings) (w : World)
    (outcome : Except Fault Report) (calls : List Notice) : Prop where
  /-- The calls are what the run has told. -/
  run : ∃ w', { r with hooks := h.noting }.execute.perform out w = (outcome, w') ∧
    w'.notices = w.notices ++ calls
  /-- A run that gives a report has told of each of its results, and then once of all of them. -/
  report : ∀ report, outcome = .ok report →
    calls = (r.callsOf report.results ++ [Notice.runCompleted report.results]).filter h.hears ∧
      (r.callsOf report.results).filterMap Notice.completed? = report.results
  /-- A run without a report has broken off where a retry cannot be made, and has told of the results
  until then. -/
  overflow : ∀ e, outcome = .error e → ∃ m cause, e = .execution cause.message ∧
    { r with hooks := h.noting }.Reaches out w m ∧
    { r with hooks := h.noting }.Overflows out m cause ∧
    calls = (r.callsOf (historyOf m.deeds)).filter h.hears
  /-- When the observer that is told of a call fails with an ordinary fault, this call is the last
  one, and the run fails. -/
  breaks : ∀ k fault, Fails k fault → ∀ j n, calls[j]? = some n → passesOn (fault n) = false →
    ∃ w', { r with hooks := h.breakingAt (w.notices.length + j + 1) k }.execute.perform out w =
        (.error (.execution (fault n).message), w') ∧
      w'.notices = w.notices ++ calls.take (j + 1)

/-- **What the observers of a run are told.** Observers that only observe are told of each attempt in
the order of the results: that it begins, that it has left a result, and the failure if it has
failed; and then of the end of the run with all results. If one of them fails at a call instead,
this call is the last one. -/
theorem execute_told (hcheck : r.workflow.check = .ok ()) (hsilent : h.Silent) (out : Surroundings)
    (w : World) : ∃ outcome calls, r.Told h out w outcome calls := by
  have hacc := Workflow.check_eq_ok_iff.mp hcheck
  rcases hrun : { r with hooks := h.noting }.execute.perform out w with ⟨e | report, w'⟩
  · obtain ⟨m, cause, rfl, hreach, hover, hcalls⟩ :=
      notices_of_fault (r := { r with hooks := h.noting }) hacc hsilent rfl hrun
    refine ⟨_, _, ⟨w', hrun, hcalls⟩, nofun, fun e he => ?_, breaks_of_run hsilent hrun hcalls⟩
    cases he
    exact ⟨m, cause, rfl, hreach, hover, rfl⟩
  · obtain ⟨hcalls, hresults⟩ :=
      notices_of_report (r := { r with hooks := h.noting }) hacc hsilent rfl hrun
    refine ⟨_, _, ⟨w', hrun, hcalls⟩, fun told htold => ?_, nofun,
      breaks_of_run hsilent hrun hcalls⟩
    cases htold
    exact ⟨rfl, hresults⟩

theorem execute_told_mended :
    mended.workflow.check = .ok () ∧ Hooks.idle.Silent ∧
      ∃ report calls, mended.Told .idle .silent {} (.ok report) calls := by
  obtain ⟨outcome, calls, htold⟩ :=
    execute_told (r := mended) check_mended Hooks.silent_idle .silent {}
  obtain ⟨report, w₁, hreport⟩ : ∃ report w₁,
      { mended with hooks := Hooks.idle.noting }.execute.perform .silent {} = (.ok report, w₁) :=
    exists_ok_of_isOk (by decide +kernel)
  obtain ⟨w', hrun, -⟩ := htold.run
  cases hreport.symm.trans hrun
  exact ⟨check_mended, Hooks.silent_idle, report, calls, htold⟩

/-- A run whose pause before a retry has no number of seconds. -/
def endless : Run where
  workflow := {
    name := "release"
    steps := [
      { name := "build", type := .str "command",
        onFailure := .action (.retry (.index 0) 1 (10 ^ 400)) } ] }

/-- **The end of a run is not told where a retry cannot be made.** Its observers are told of the
attempt before: that it begins, that it has left a result, and the failure. -/
theorem end_untold_endless :
    endless.workflow.check = .ok () ∧ Hooks.idle.Silent ∧ (∀ n, Hooks.idle.hears n = true) ∧
      ∃ w', { endless with hooks := Hooks.idle.noting }.execute.perform .silent {} =
          (.error (.execution "int too large to convert to float"), w') ∧
        w'.notices.length = 3 ∧ w'.notices.any Notice.tellsEnd = false := by
  obtain ⟨w', hrun⟩ : ∃ w', { endless with hooks := Hooks.idle.noting }.execute.perform .silent {} =
      (.error (.execution "int too large to convert to float"), w') :=
    exists_error_of_map (by decide +kernel)
  have hnotices :
      ({ endless with hooks := Hooks.idle.noting }.execute.perform .silent {}).2.notices.length = 3 := by
    decide +kernel
  have hlast : ({ endless with hooks := Hooks.idle.noting }.execute.perform .silent {}).2.notices.any
      Notice.tellsEnd = false := by decide +kernel
  rw [hrun] at hnotices hlast
  exact ⟨rfl, Hooks.silent_idle, fun n => by cases n <;> rfl, w', hrun, hnotices, hlast⟩

end Run

end StepFlow
