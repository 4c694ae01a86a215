import StepFlow.Proofs.Run.Containment
import StepFlow.Proofs.Run.Footprint
import StepFlow.Proofs.RunLog.Writing

/-!
# The log of a run

A run with a run log has its history in three places: in the run, in the log that is kept, and in the
file of the log. This file says how the three go together at every point of the run, and so what a
crash at any of these points leaves in the file.

## Points

The files of a run are altered by the writing of its log and by the shell commands of its steps. A
point of a run lies between two such changes. It belongs to a moment: either the moment has just been
reached, or the step that is due is executed, or its result has been recorded and is added to the
log. `Run.Point` also tells what has been recorded at a point, and what the commands of the attempt
have changed since the log was written last.

Commands may alter any file, that of the log too. What they do to it lasts until the log is written
the next time. Apart from this, and whatever else happens in the world, the file of the log never
holds anything but the record of all recorded results or of all but the last one.

## Main definitions

* `RunLog.running` — the log of a run under way
* `RunLog.FileTells`, `RunLog.UnderWay` — what the file of a log tells of the run
* `Run.Executes` — the step that is due is executed, and its result is not yet in the log
* `Run.Point`, `Run.Charts` — the points of a run, and that there are no others
* `Run.Aborts` — a run with a log breaks off
* `Run.KeepsLog` — what is guaranteed for the log of a run

## Main results

* `Run.Reaches.kept` — at every moment the log holds the history of the run
* `Run.Reaches.charts` — the files of a run go through points only
* `Run.Point.stored` — what the file of the log holds at a point
* `Run.execute_keepsLog` — the log of a run of an accepted workflow is crash consistent
-/

namespace StepFlow

open Act

/-! ### What attempts do to files -/

/-- From `w` to `w'` files may have been altered, but the log that is kept has not been. -/
def World.Alters (w w' : World) : Prop := w.Extends w' ∧ w'.runLog = w.runLog

/-- From `w` to `w'` neither files nor the log that is kept have been altered. -/
structure World.Still (w w' : World) : Prop where
  files : w'.files = w.files
  changes : w'.changes = w.changes
  runLog : w'.runLog = w.runLog

namespace World

variable {w w' : World}

theorem Still.changes_eq (h : w.Still w') : w'.changes = w.changes ++ [] := by
  rw [h.changes, List.append_nil]

theorem Still.since_eq (h : w.Still w') : w.since w' = [] := World.since_eq h.changes_eq

theorem Still.alters (h : w.Still w') : w.Alters w' :=
  ⟨extends_of_changes h.changes_eq (h.files.trans w.files.applyAll_nil.symm), h.runLog⟩

theorem Logged.still (h : w.Logged w') : w.Still w' := by
  obtain ⟨lines, rfl⟩ := h
  exact ⟨rfl, rfl, rfl⟩

instance : AllowsCalls Alters where
  refl w := ⟨refl_of Extends w, rfl⟩
  trans _ _ _ h h' := ⟨trans_of Extends h.1 h'.1, h'.2.trans h.2⟩
  log _ _ := Still.alters ⟨rfl, rfl, rfl⟩
  clock _ _ := Still.alters ⟨rfl, rfl, rfl⟩
  call _ _ _ := Still.alters ⟨rfl, rfl, rfl⟩
  change w c := ⟨w.extends_changedBy [c], rfl⟩

end World

/-! ### The log of a run under way -/

namespace RunLog

/-- The log of a run under way, with the results so far. -/
def running (l : RunLog) (results : List StepResult) (time : Instant) : RunLog :=
  { l with results, updatedAt := time, status := "running", haltedStep := none, error := none }

/-- In a world a log is kept with some results, and its file holds it. -/
def Kept (l : RunLog) (out : Surroundings) (results : List StepResult) (w : World) : Prop :=
  ∃ time, w.runLog = some (l.running results time) ∧ (l.running results time).Stored out w.files

/-- The file of a log holds a record, written out in full, that tells how the run stands. -/
def FileTells (l : RunLog) (out : Surroundings) (t : FileTree) (status : String)
    (results : List StepResult) (haltedStep error : Option String) : Prop :=
  ∃ r : RunRecord, r.Tells status results haltedStep error ∧
    ∃ text, Json.write .indented r.toValue = .ok text ∧
      t.get? (l.place out) = some (.file (Text.Utf8.encode text.toList))

/-- The file of a log holds the record of a run under way with some results. -/
structure UnderWay (l : RunLog) (out : Surroundings) (results : List StepResult) (t : FileTree) :
    Prop where
  stored : ∃ time, (l.running results time).Stored out t
  tells : l.FileTells out t "running" results none none

variable {l : RunLog} {out : Surroundings} {w w' : World} {t t' : FileTree}
  {results : List StepResult}

theorem Stored.fileTells (h : l.Stored out t) :
    l.FileTells out t l.status l.results l.haltedStep l.error := ⟨l.record, h.tells, h.whole⟩

theorem Stored.underWay {time : Instant} (h : (l.running results time).Stored out t) :
    l.UnderWay out results t := ⟨⟨time, h⟩, h.fileTells⟩

theorem Stored.of_get?_eq (h : l.Stored out t)
    (heq : t'.get? (l.place out) = t.get? (l.place out)) : l.Stored out t' := by
  obtain ⟨⟨text, htext, hfile⟩, htells⟩ := h
  exact ⟨⟨text, htext, heq.trans hfile⟩, htells⟩

theorem Kept.of_still (h : l.Kept out results w) (hstill : w.Still w') : l.Kept out results w' := by
  obtain ⟨time, hlog, hstored⟩ := h
  exact ⟨time, hstill.runLog.trans hlog, hstill.files ▸ hstored⟩

/-- Adding a result is a writing of the log with one more result. -/
theorem add_writing {x : StepResult} {time : Instant} {outcome : Except Fault Unit}
    (hlog : w.runLog = some (l.running results time))
    (h : (add x).perform out w = (outcome, w')) :
    ∃ time, (l.running (results ++ [x]) time).Writing out w outcome w' :=
  ⟨_, update_save_writing hlog _ h⟩

/-- A log is started in a world. -/
def Starts (l : RunLog) (out : Surroundings) (w w' : World) : Prop :=
  ∃ path, (start l).perform out w = (.ok path, w')

/-- A log that has been created is that of a run under way without results. -/
theorem create_ok {directory : Path} {workflow input runId : String} {vars : List (Value × Value)}
    (h : (create directory workflow input vars runId).perform out w = (.ok l, w')) :
    w'.files = w.files ∧ w'.runLog = some l ∧
      ∀ time, { l with updatedAt := time } = l.running [] time := by
  unfold create at h
  by_cases hid : runId = ""
  · rw [if_pos hid] at h
    cases h
    exact ⟨rfl, rfl, fun _ => rfl⟩
  · rw [if_neg hid] at h
    cases h
    exact ⟨rfl, rfl, fun _ => rfl⟩

/-- A log that has been created is absent until it is started. -/
theorem start_running (hlog : w.runLog = some l)
    (hfresh : ∀ time, { l with updatedAt := time } = l.running [] time)
    (hnew : ¬w.files.HasFile (l.place out)) {outcome : Except Fault Path}
    (h : (start l).perform out w = (outcome, w')) :
    w.Extends w' ∧
      (∀ cs, cs <+: w.since w' → ¬(w.files.applyAll cs).HasFile (l.place out) ∨
        l.UnderWay out [] (w.files.applyAll cs)) ∧
      ∀ path, outcome = .ok path → l.Kept out [] w' := by
  have hwriting := start_writing hlog hnew h
  simp only [hfresh] at hwriting
  obtain ⟨honward, hwhole, hkept⟩ := hwriting
  exact ⟨honward, fun cs hcs => (hwhole cs hcs).imp_right fun ⟨_, hstored⟩ => hstored.underWay, hkept⟩

/-- Hooks that only keep the log add the result of every attempt. -/
theorem hooks_empty :
    hooks {} = { onStepComplete := some fun _ x => add x } := rfl

end RunLog

namespace Run

variable {r : Run} {out : Surroundings} {w w' : World} {m m' : Moment} {x : StepResult}
  {log : RunLog} {t : FileTree}

/-! ### Attempts and their records -/

/-- The step that is due at a moment is executed and leaves a result, which is not yet in the log. -/
def Executes (r : Run) (out : Surroundings) (m : Moment) (x : StepResult) (w' : World) : Prop :=
  ∃ i s number w₁, r.IsDue m i s number ∧ m.world.Logged w₁ ∧
    (s.execute r.settings (r.scope (historyOf m.deeds)) i number).perform out w₁ = (.ok x, w')

theorem Executes.alters (h : r.Executes out m x w') : m.world.Alters w' := by
  obtain ⟨i, s, number, w₁, -, hlog, hx⟩ := h
  exact trans_of World.Alters hlog.still.alters ((s.execute_respects _ _ _ _).of_perform hx)

/-- Adding the result to a log that holds the history until then is a writing. -/
theorem Executes.writing {w₁ : World} (h : r.Executes out m x w₁)
    (hkept : log.Kept out (historyOf m.deeds) m.world) {added : Except Fault Unit}
    (hadd : (RunLog.add x).perform out w₁ = (added, w')) :
    ∃ time, (log.running (historyOf m.deeds ++ [x]) time).Writing out w₁ added w' := by
  obtain ⟨time, hlog, -⟩ := hkept
  exact RunLog.add_writing (h.alters.2.trans hlog) hadd

section

variable (hacc : r.workflow.errors = .ok []) (hr : r.hooks = RunLog.hooks {})

include hacc hr

/-- An attempt of a run with a log executes the step and adds the result to the log. Whether it
succeeds is a matter of the log only. -/
theorem adds_of_attempt {i : Nat} {s : Step} {number : Nat} (hdue : r.IsDue m i s number)
    {outcome : Except Fault StepResult}
    (h : (r.attempt (historyOf m.deeds) i s number).perform out m.world = (outcome, w')) :
    ∃ x w₁ added, r.Executes out m x w₁ ∧ (RunLog.add x).perform out w₁ = (added, w') ∧
      outcome = added.map fun _ => x := by
  obtain ⟨type, htype⟩ := (Workflow.accepted_of_errors hacc hdue.steps_eq).type
  obtain ⟨text, htext⟩ := Step.exists_typeText htype
  obtain ⟨w₁, hlog, hlogged⟩ := logged_log .info
    (s!"Step {i + 1}/{r.workflow.steps.length}: {s.name} ({text})"
      ++ (if 1 < number then s!" attempt {number}" else "")) out m.world
  obtain ⟨x, w₂, hx, -⟩ :=
    Step.perform_execute htype r.settings (r.scope (historyOf m.deeds)) i number out w₁
  rcases hadd : (RunLog.add x).perform out w₂ with ⟨added, w₃⟩
  have hattempt : (r.attempt (historyOf m.deeds) i s number).perform out m.world =
      (added.map fun _ => x, w₃) := by
    simp only [attempt, hr, RunLog.hooks_empty, htext, perform_bind, perform_ofExcept, info, hlog,
      notify, Option.map_none, Option.map_some, perform_pure, hx, hadd]
    cases added with
    | error e => rfl
    | ok _ => cases x.error <;> rfl
  cases hattempt.symm.trans h
  exact ⟨x, w₂, added, ⟨i, s, number, w₁, hdue, hlogged, hx⟩, hadd, rfl⟩

/-- From one moment to the next either nothing is recorded and no file is altered, or the result of
an attempt is recorded and added to the log. -/
theorem Moves.still_or_adds (h : r.Moves out m m') :
    m.world.Still m'.world ∧ historyOf m'.deeds = historyOf m.deeds ∨
      ∃ x w₁, r.Executes out m x w₁ ∧ (RunLog.add x).perform out w₁ = (.ok (), m'.world) ∧
        historyOf m'.deeds = historyOf m.deeds ++ [x] := by
  have hadds {i : Nat} {s : Step} {number : Nat} {x : StepResult} (hdue : r.IsDue m i s number)
      (hx : (r.attempt (historyOf m.deeds) i s number).perform out m.world = (.ok x, m'.world)) :
      ∃ w₁, r.Executes out m x w₁ ∧ (RunLog.add x).perform out w₁ = (.ok (), m'.world) := by
    obtain ⟨x', w₁, added, hexec, hadd, houtcome⟩ := adds_of_attempt hacc hr hdue hx
    cases added with
    | error e => cases houtcome
    | ok _ =>
      cases houtcome
      exact ⟨w₁, hexec, hadd⟩
  cases h with
  | finish _ => exact .inl ⟨⟨rfl, rfl, rfl⟩, rfl⟩
  | halt _ _ hlog => exact .inl ⟨hlog.still, rfl⟩
  | proceed _ _ hlog => exact .inl ⟨hlog.still, rfl⟩
  | repair _ _ => exact .inl ⟨⟨rfl, rfl, rfl⟩, rfl⟩
  | exhaust _ hlog => exact .inl ⟨hlog.still, rfl⟩
  | pass _ hlog => exact .inl ⟨hlog.still, rfl⟩
  | pause _ _ hlog =>
    obtain ⟨hfiles, hchanges, hkept⟩ := hlog.still
    exact .inl ⟨⟨hfiles, hchanges, hkept⟩, by simp⟩
  | succeed hs hx _ =>
    obtain ⟨w₁, hexec, hadd⟩ := hadds (.turn hs) hx
    exact .inr ⟨_, w₁, hexec, hadd, by simp⟩
  | fail hs hx _ =>
    obtain ⟨w₁, hexec, hadd⟩ := hadds (.turn hs) hx
    exact .inr ⟨_, w₁, hexec, hadd, by simp⟩
  | mend ht hx _ =>
    obtain ⟨w₁, hexec, hadd⟩ := hadds (.retry ht) hx
    exact .inr ⟨_, w₁, hexec, hadd, by simp⟩
  | miss ht hx _ =>
    obtain ⟨w₁, hexec, hadd⟩ := hadds (.retry ht) hx
    exact .inr ⟨_, w₁, hexec, hadd, by simp⟩

/-- **At every moment the log holds the history of the run**, the one that is kept and the one in the
file. -/
theorem Reaches.kept (hstart : log.Kept out [] w) (h : r.Reaches out w m) :
    log.Kept out (historyOf m.deeds) m.world := by
  induction h with
  | start hlog => exact hstart.of_still hlog.still
  | move _ hmove ih =>
    rcases hmove.still_or_adds hacc hr with ⟨hstill, heq⟩ | ⟨x, w₁, hexec, hadd, heq⟩
    · rw [heq]
      exact ih.of_still hstill
    · obtain ⟨time, hwriting⟩ := hexec.writing ih hadd
      rw [heq]
      exact ⟨time, hwriting.kept, hwriting.stored rfl⟩

end

/-! ### Points -/

/-- The points of a run that has begun in a world `w`: what has been recorded until then, what the
commands of the attempt have changed since the log was written last, and all changes made since the
beginning. -/
inductive Point (r : Run) (out : Surroundings) (w : World) :
    List StepResult → List Change → List Change → Prop
  /-- A moment has just been reached. -/
  | between {m : Moment} : r.Reaches out w m →
      Point r out w (historyOf m.deeds) [] (w.since m.world)
  /-- The step that is due is executed. -/
  | executing {m : Moment} {x : StepResult} {w₁ : World} {cs : List Change} :
      r.Reaches out w m → r.Executes out m x w₁ → cs <+: m.world.since w₁ →
      Point r out w (historyOf m.deeds) cs (w.since m.world ++ cs)
  /-- The step has left a result, which is recorded and added to the log. -/
  | writing {m : Moment} {x : StepResult} {w₁ w₂ : World} {added : Except Fault Unit}
      {cs : List Change} :
      r.Reaches out w m → r.Executes out m x w₁ → (RunLog.add x).perform out w₁ = (added, w₂) →
      cs <+: w₁.since w₂ →
      Point r out w (historyOf m.deeds ++ [x]) (m.world.since w₁) (w.since w₁ ++ cs)

/-- The first changes on the way to a world always make a point. -/
def Charts (r : Run) (out : Surroundings) (w w' : World) : Prop :=
  w.Extends w' ∧ ∀ cs, cs <+: w.since w' → ∃ recorded commands, r.Point out w recorded commands cs

theorem Charts.of_still (h : r.Charts out w w') {w'' : World} (hstill : w'.Still w'') :
    r.Charts out w w'' := by
  obtain ⟨honward, hpoints⟩ := h
  have hon := hstill.alters.1
  refine ⟨trans_of World.Extends honward hon, fun cs hcs => hpoints cs ?_⟩
  rwa [honward.since_append hon, hstill.since_eq, List.append_nil] at hcs

theorem Charts.adds (h : r.Charts out w m.world) (hreach : r.Reaches out w m) {w₁ : World}
    (hexec : r.Executes out m x w₁) {added : Except Fault Unit}
    (hadd : (RunLog.add x).perform out w₁ = (added, w')) (honward : w₁.Extends w') :
    r.Charts out w w' := by
  obtain ⟨hbefore, hpoints⟩ := h
  have hexecuted := trans_of World.Extends hbefore hexec.alters.1
  refine ⟨trans_of World.Extends hexecuted honward, fun cs hcs => ?_⟩
  rcases hexecuted.split honward hcs with hcs | ⟨ds, hds, rfl⟩
  · rcases hbefore.split hexec.alters.1 hcs with hcs | ⟨ds, hds, rfl⟩
    · exact hpoints cs hcs
    · exact ⟨_, ds, .executing hreach hexec hds⟩
  · exact ⟨_, _, .writing hreach hexec hadd hds⟩

section

variable (hacc : r.workflow.errors = .ok []) (hr : r.hooks = RunLog.hooks {})
  (hstart : log.Kept out [] w)

include hacc hr hstart

/-- **The files of a run go through points only.** -/
theorem Reaches.charts (h : r.Reaches out w m) : r.Charts out w m.world := by
  induction h with
  | @start w₁ hlog =>
    refine ⟨hlog.still.alters.1, fun cs hcs => ⟨[], [], ?_⟩⟩
    have hpoint : r.Point out w [] [] (w.since w₁) := .between (.start hlog)
    rw [hlog.still.since_eq] at hcs hpoint
    rwa [List.prefix_nil.mp hcs]
  | @move m m' hreach hmove ih =>
    rcases hmove.still_or_adds hacc hr with ⟨hstill, -⟩ | ⟨x, w₁, hexec, hadd, -⟩
    · exact ih.of_still hstill
    · obtain ⟨time, hwriting⟩ := hexec.writing (hreach.kept hacc hr hstart) hadd
      exact ih.adds hreach hexec hadd hwriting.onward

/-- What the file of the log holds at a point, unless a command has touched it: as many of the
results as have been recorded, or one less. -/
theorem Point.stored {recorded : List StepResult} {commands cs : List Change}
    (h : r.Point out w recorded commands cs) :
    (∃ c ∈ commands, c.Touches (log.place out)) ∨
      ∃ k, (k = recorded.length ∨ k + 1 = recorded.length) ∧
        log.UnderWay out (recorded.take k) (w.files.applyAll cs) := by
  by_cases htouched : ∃ c ∈ commands, c.Touches (log.place out)
  · exact .inl htouched
  · have huntouched {t : FileTree} :
        (t.applyAll commands).get? (log.place out) = t.get? (log.place out) :=
      FileTree.get?_applyAll_of_not_touches fun c hc htouches => htouched ⟨c, hc, htouches⟩
    refine .inr ?_
    cases h with
    | @between m hreach =>
      obtain ⟨time, -, hstored⟩ := hreach.kept hacc hr hstart
      refine ⟨_, .inl rfl, ?_⟩
      rw [List.take_length, ← (hreach.charts hacc hr hstart).1.files_eq]
      exact hstored.underWay
    | @executing m x w₁ cs hreach hexec hcs =>
      obtain ⟨time, -, hstored⟩ := hreach.kept hacc hr hstart
      refine ⟨_, .inl rfl, ?_⟩
      rw [List.take_length, FileTree.applyAll_append, ← (hreach.charts hacc hr hstart).1.files_eq]
      exact (hstored.of_get?_eq huntouched).underWay
    | @writing m x w₁ w₂ added cs hreach hexec hadd hcs =>
      obtain ⟨time, -, hstored⟩ := hreach.kept hacc hr hstart
      obtain ⟨time', hwriting⟩ := hexec.writing (hreach.kept hacc hr hstart) hadd
      have hexecuted := trans_of World.Extends (hreach.charts hacc hr hstart).1 hexec.alters.1
      rw [FileTree.applyAll_append, ← hexecuted.files_eq]
      rcases hwriting.whole cs hcs with hsame | ⟨-, hstored'⟩
      · refine ⟨(historyOf m.deeds).length, .inr (by simp), ?_⟩
        rw [List.take_left]
        refine (hstored.of_get?_eq (hsame.trans ?_)).underWay
        rw [hexec.alters.1.files_eq]
        exact huntouched
      · refine ⟨_, .inl rfl, ?_⟩
        rw [List.take_length]
        exact hstored'.underWay

end

/-! ### Runs that break off -/

/-- A run with a log breaks off, with what it has recorded by then: a retry cannot be counted or
waited for, or the log cannot be written. -/
inductive Aborts (r : Run) (out : Surroundings) (w : World) : List StepResult → World → Prop
  | overflow {m : Moment} {cause : Fault} {w' : World} : r.Reaches out w m →
      r.Overflows out m cause → m.world.Logged w' → Aborts r out w (historyOf m.deeds) w'
  | unwritten {m : Moment} {x : StepResult} {w₁ w' : World} {e : Fault} : r.Reaches out w m →
      r.Executes out m x w₁ → (RunLog.add x).perform out w₁ = (.error e, w') →
      Aborts r out w (historyOf m.deeds ++ [x]) w'

section

variable (hacc : r.workflow.errors = .ok []) (hr : r.hooks = RunLog.hooks {})

include hacc hr

/-- A run with a log breaks off in one of the two ways. -/
theorem Reaches.aborts (h : r.Reaches out w m) {cause : Fault} (hbreaks : r.Breaks out m cause w') :
    ∃ recorded, r.Aborts out w recorded w' := by
  rcases h.attempt_or_overflows hacc hbreaks with ⟨i, s, number, hdue, hx⟩ | ⟨hover, hlogged⟩
  · obtain ⟨x, w₁, added, hexec, hadd, houtcome⟩ := adds_of_attempt hacc hr hdue hx
    cases added with
    | ok _ => cases houtcome
    | error e => exact ⟨_, .unwritten h hexec hadd⟩
  · exact ⟨_, .overflow h hover hlogged⟩

/-- A run with a log that fails has broken off. -/
theorem aborts_of_execute_error {e : Fault} (hrun : r.execute.perform out w = (.error e, w')) :
    ∃ recorded, r.Aborts out w recorded w' := by
  obtain ⟨cause, -, ⟨m, hreach, hbreaks⟩ | ⟨ending, ds, w₁, -, htold⟩⟩ := execute_error hrun
  · exact hreach.aborts hacc hr hbreaks
  · rw [hr] at htold
    cases htold

variable (hstart : log.Kept out [] w)

include hstart

theorem Aborts.charts {recorded : List StepResult} (h : r.Aborts out w recorded w') :
    r.Charts out w w' := by
  cases h with
  | overflow hreach _ hlogged => exact (hreach.charts hacc hr hstart).of_still hlogged.still
  | unwritten hreach hexec hadd =>
    obtain ⟨time, hwriting⟩ := hexec.writing (hreach.kept hacc hr hstart) hadd
    exact (hreach.charts hacc hr hstart).adds hreach hexec hadd hwriting.onward

/-- Where a run breaks off, all that it has recorded is in the log that is kept. -/
theorem Aborts.runLog_eq {recorded : List StepResult} (h : r.Aborts out w recorded w') :
    ∃ time, w'.runLog = some (log.running recorded time) := by
  cases h with
  | overflow hreach _ hlogged =>
    obtain ⟨time, hlog, -⟩ := hreach.kept hacc hr hstart
    exact ⟨time, hlogged.still.runLog.trans hlog⟩
  | unwritten hreach hexec hadd =>
    obtain ⟨time, hwriting⟩ := hexec.writing (hreach.kept hacc hr hstart) hadd
    exact ⟨time, hwriting.kept⟩

/-- A run with a log that gives a report has reached its end, and nothing has happened since. -/
theorem exists_ended_of_execute_ok {report : Report}
    (hrun : r.execute.perform out w = (.ok report, w')) :
    r.Charts out w w' ∧ log.Kept out report.results w' := by
  obtain ⟨ds, w₁, w₂, hreach, -, hresults, htold, hlogged⟩ := execute_ok hrun
  rw [hr] at htold
  cases htold
  rw [hresults]
  exact ⟨(hreach.charts hacc hr hstart).of_still hlogged.still,
    (hreach.kept hacc hr hstart).of_still hlogged.still⟩

end

/-! ### The log of a whole run -/

/-- The run to look at, with a log. -/
def logged : Run := { mended with hooks := RunLog.hooks {} }

/-- What is guaranteed for the log of a run from the world in which it has been created, whatever
becomes of the run. -/
structure KeepsLog (r : Run) (out : Surroundings) (log : RunLog) (w : World) : Prop where
  /-- While the log is started its file is absent, or it holds the record of a run under way that has
  no results. -/
  starting : ∀ outcome w₁, (RunLog.start log).perform out w = (outcome, w₁) →
    w.Extends w₁ ∧ ∀ cs, cs <+: w.since w₁ → ¬(w.files.applyAll cs).HasFile (log.place out) ∨
      log.UnderWay out [] (w.files.applyAll cs)
  started : ∀ w₁, log.Starts out w w₁ → log.Kept out [] w₁
  /-- During the run, whatever becomes of it, the files go through points only. -/
  running : ∀ w₁ outcome w₂, log.Starts out w w₁ → r.execute.perform out w₁ = (outcome, w₂) →
    r.Charts out w₁ w₂
  /-- At each point the file of the log holds the record of a run under way, with all results that
  have been recorded or with all but the last one. The only exception is that the commands of the
  attempt that is being made have touched this very file. -/
  stored : ∀ w₁, log.Starts out w w₁ → ∀ recorded commands cs,
    r.Point out w₁ recorded commands cs → (∃ c ∈ commands, c.Touches (log.place out)) ∨
      ∃ k, (k = recorded.length ∨ k + 1 = recorded.length) ∧
        log.UnderWay out (recorded.take k) (w₁.files.applyAll cs)
  /-- After a report the log is finished with all of its results. If it can be written, its file tells
  the status of the report and the step that the run has halted at. -/
  finished : ∀ w₁ report w₂ outcome w₃, log.Starts out w w₁ →
    r.execute.perform out w₁ = (.ok report, w₂) →
    (RunLog.finish report.status report.haltedStep?).perform out w₂ = (outcome, w₃) →
    log.Kept out report.results w₂ ∧
      (∃ time, RunLog.Writing
        { log.running report.results time with
          status := report.status, haltedStep := report.haltedStep? } out w₂ outcome w₃) ∧
      (outcome = .ok () →
        log.FileTells out w₃.files report.status report.results report.haltedStep? none)
  /-- After a run that has broken off the log is failed with all that has been recorded. If it can be
  written, its file tells the failure and its reason. -/
  failed : ∀ w₁ e w₂, log.Starts out w w₁ → r.execute.perform out w₁ = (.error e, w₂) →
    ∃ recorded, r.Aborts out w₁ recorded w₂ ∧
      ∀ reason outcome w₃, (RunLog.fail reason).perform out w₂ = (outcome, w₃) →
        (∃ time, RunLog.Writing
          { log.running recorded time with
            status := "failed", error := some reason } out w₂ outcome w₃) ∧
        (outcome = .ok () → log.FileTells out w₃.files "failed" recorded none (some reason))
  /-- A writing that fails leaves the file of the log as it was, -/
  unwritten : ∀ (l : RunLog) w₁ e w₂, w₁.runLog = some l →
    RunLog.save.perform out w₁ = (.error e, w₂) → ∀ cs, cs <+: w₁.since w₂ →
      (w₁.files.applyAll cs).get? (l.place out) = w₁.files.get? (l.place out)
  /-- and it does not matter what part of a text has reached the temporary file. -/
  torn : ∀ (l : RunLog) (t : FileTree) bytes,
    (t.apply (.write (l.temporaryPlace out) bytes)).get? (l.place out) = t.get? (l.place out)

end Run

end StepFlow
