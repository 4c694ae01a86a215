import StepFlow.Command.Perform
import StepFlow.Proofs.Run.Notices
import StepFlow.Proofs.RunLog.Keeping
import StepFlow.Proofs.Workflow.Loading

/-!
# What becomes of the command that runs a workflow

The command ends with an exit code: 0 when the run has been completed, 1 when it has not or the
settings are at fault, and 2 when the workflow or a variable is refused. Besides, it leaves a run
log, and the code and the status in the log tell the same story. This file says how they go
together, and which of the ways in which the command can end leave no trace.

## Before the run

All that comes before the run is reading: settings and workflow are loaded, variables are taken from
the command line. Nothing of this does anything to the world, so that a command which ends here
leaves it as it was but for a few lines in the log. A dry run makes the same preparations, and stops
after them; hence it tells whether they will succeed. `Command.runWorkflow_cases` is the case
distinction behind this.

The run itself does not refuse a workflow any more. It checks it once again, but a workflow that has
been loaded from a file passes this check.

## Main definitions

* `World.Unaffected` — no files have been changed, and nobody has been called
* `RunLog.Written` — a run log has been written, and this is what was changed last
* `Command.Ready` — the preparations of a run have been made
* `Command.Contract` — what is guaranteed of the command

## Main results

* `Run.execute_respects` — what a run does to the world, besides what its observers do
* `Command.runWorkflow_cases` — the preparations are made, or the command ends
* `Command.runLogged_ok` — exit code and log of a run
* `Arguments.perform_contract` — the contract
-/

namespace StepFlow

open Act

/-! ### Nothing but log lines -/

/-- From `w` to `w'` no file or directory has been changed, and nobody has been called: no shell, no
agent and no service. -/
structure World.Unaffected (w w' : World) : Prop where
  files : w'.files = w.files
  changes : w'.changes = w.changes
  events : w'.events = w.events

instance : IsPreorder World World.Unaffected where
  refl _ := ⟨rfl, rfl, rfl⟩
  trans _ _ _ h h' := ⟨h'.files.trans h.files, h'.changes.trans h.changes, h'.events.trans h.events⟩

theorem World.Logged.unaffected {w w' : World} (h : w.Logged w') : w.Unaffected w' := by
  obtain ⟨lines, rfl⟩ := h
  exact ⟨rfl, rfl, rfl⟩

section

variable {R : World → World → Prop} [IsPreorder World R]

theorem homePath_respects (name : String) : Respects R (homePath name) := by
  refine .bind (.bind .read fun _ => .pure _) fun own => ?_
  split
  · exact .ite (fun _ => .throw _) fun _ => .pure _
  · exact .throw _

theorem expandHome_respects (p : Path) : Respects R (expandHome p) := by
  unfold expandHome
  split
  · exact .ite (fun _ => .pure _) fun _ => .bind (homePath_respects _) fun _ => .pure _
  · exact .pure _

namespace SettingsDirectory

theorem named_respects (name : Option String) : Respects R (named name) := by
  have hstandard : Respects R standard := .bind (homePath_respects _) fun _ => .pure _
  unfold named
  split
  · exact hstandard
  · exact hstandard
  · exact .bind (expandHome_respects _) fun _ => .pure _

/-- Loading settings is reading. -/
theorem load_respects (parse : List Char → Except Fault Value) (d : SettingsDirectory) :
    Respects R (d.load parse) := by
  refine .bind (.bind (look?_respects _) fun _ => .pure _) fun found => ?_
  refine .ite (fun _ => ?_) fun _ => ?_
  · refine .bind (.bind (.attempt (.bind (readText_respects _) fun _ => .ofExcept _)) fun _ =>
      .ofExcept _) fun doc => ?_
    split
    · exact .pure _
    · refine .bind .read fun _ => .bind (.ofExcept _) fun expanded => ?_
      split
      · exact .ofExcept _
      · exact .throw _
    · exact .throw _
  · exact .pure _

theorem logDirectory_respects (d : SettingsDirectory) (s : Settings) :
    Respects R (d.logDirectory s) := by
  unfold logDirectory
  split
  · exact .pure _
  · exact .pure _
  · exact expandHome_respects _

end SettingsDirectory

/-- Loading a workflow is reading. -/
theorem Workflow.loadNamed_respects (parse : List Char → Except Fault Value) (file name : String) :
    Respects R (loadNamed parse file name) := by
  refine .bind (load_respects parse file) fun workflows => ?_
  split
  · exact .pure _
  · exact .throw _

end

/-- A workflow that has been loaded by its name has no errors. -/
theorem Workflow.errors_eq_nil_of_loadNamed {parse : List Char → Except Fault Value}
    {file name : String} {out : Surroundings} {w w' : World} {workflow : Workflow}
    (h : (loadNamed parse file name).perform out w = (.ok workflow, w')) :
    workflow.errors = .ok [] := by
  obtain ⟨found, w₁, hload, h⟩ := perform_bind_ok_iff.mp h
  cases hname : found.get? name with
  | none =>
    rw [hname] at h
    cases h
  | some listed =>
    rw [hname] at h
    cases h
    obtain ⟨entry, hentry, rfl⟩ := Option.map_eq_some_iff.mp hname
    exact errors_eq_nil_of_load hload entry (List.mem_of_find?_eq_some hentry)

/-! ### The preparations of a run -/

namespace Command

/-- Errors are told in log lines. -/
theorem perform_logErrors (errors : List DefinitionError) (out : Surroundings) (w : World) :
    ∃ w', (logErrors errors).perform out w = (.ok (), w') ∧ w.Logged w' :=
  logged_forM (f := fun e : DefinitionError => logError s!"Validation error: {e.message}")
    (fun _ => logged_log .error _) errors out w

/-- The preparations of a run have been made: settings, workflow and variables are there. -/
structure Ready (d : SettingsDirectory) (choice : RunChoice) (out : Surroundings) (w : World)
    (settings : Settings) (workflow : Workflow) (vars : List (Value × Value)) : Prop where
  settings : (d.load Yaml.read).perform out w = (.ok settings, w)
  workflow : (Workflow.loadNamed Yaml.read choice.file choice.workflow).perform out w =
    (.ok workflow, w)
  vars : Variables.read (choice.vars.getD []) = .ok vars

/-- What is done with a workflow when all preparations have been made. -/
def proceed (d : SettingsDirectory) (choice : RunChoice) (settings : Settings) (workflow : Workflow)
    (vars : List (Value × Value)) : Act Nat :=
  if choice.dryRun then do
    printLine (← Act.ofExcept (Plan.describe workflow))
    info "[DRY RUN] Workflow validation successful"
    return 0
  else do
    let logs ← d.logDirectory settings
    runLogged settings logs workflow choice.input vars

variable {d : SettingsDirectory} {choice : RunChoice} {out : Surroundings} {w w' : World}
  {settings : Settings} {workflow : Workflow} {vars : List (Value × Value)}

theorem Ready.perform_eq (h : Ready d choice out w settings workflow vars) :
    (runWorkflow d choice).perform out w =
      (proceed d choice settings workflow vars).perform out w := by
  rw [runWorkflow, perform_bind_of_ok (perform_attempt_ok_iff.mpr h.settings)]
  dsimp only
  rw [orRefuse, perform_bind_of_ok (perform_attempt_ok_iff.mpr h.workflow)]
  dsimp only
  rw [h.vars]
  rfl

/-- The command ends before there is anything to run, whether that was to be dry or not. -/
inductive Ended (d : SettingsDirectory) (choice : RunChoice) (out : Surroundings) (w : World) :
    Except Fault Nat → Prop
  /-- The settings are at fault. -/
  | unconfigured {f : SettingsFault} :
    (d.load Yaml.read).perform out w = (.error (.settings f), w) → Ended d choice out w (.ok 1)
  /-- The workflow or a variable is refused. -/
  | refused {settings : Settings} :
    (d.load Yaml.read).perform out w = (.ok settings, w) → Ended d choice out w (.ok 2)
  | broken (e : Fault) : Ended d choice out w (.error e)

/-- The preparations fail, and the command ends with nothing but a few lines in the log. -/
def EndsEarly (d : SettingsDirectory) (choice : RunChoice) (out : Surroundings) (w : World) :
    Prop :=
  ∃ outcome w', Ended d choice out w outcome ∧ w.Logged w' ∧
    ∀ dryRun, (runWorkflow d { choice with dryRun := dryRun }).perform out w = (outcome, w')

theorem endsEarly_of_error {e : Fault}
    (h : ∀ dryRun, (runWorkflow d { choice with dryRun := dryRun }).perform out w = (.error e, w)) :
    EndsEarly d choice out w := ⟨_, w, .broken e, .refl w, h⟩

/-- Settings that are at fault end the command with a log line. -/
theorem runWorkflow_of_settings (choice : RunChoice) {f : SettingsFault}
    (h : (d.load Yaml.read).perform out w = (.error (.settings f), w)) :
    ∃ w', w.Logged w' ∧ ∀ dryRun,
      (runWorkflow d { choice with dryRun := dryRun }).perform out w = (.ok 1, w') := by
  obtain ⟨w', hlog, hlogged⟩ := logged_log .error f.message out w
  refine ⟨w', hlogged, fun dryRun => ?_⟩
  rw [runWorkflow, perform_bind_of_ok (perform_attempt_ok_iff.mpr h)]
  exact perform_bind_of_ok hlog _

theorem endsEarly_of_settings {e : Fault} (h : (d.load Yaml.read).perform out w = (.error e, w)) :
    EndsEarly d choice out w := by
  have hbroken := @endsEarly_of_error d choice out w e
  cases e with
  | settings f =>
    obtain ⟨w', hlogged, hboth⟩ := runWorkflow_of_settings choice h
    exact ⟨_, w', .unconfigured h, hlogged, hboth⟩
  | _ =>
    refine hbroken fun dryRun => ?_
    rw [runWorkflow, perform_bind_of_ok (perform_attempt_ok_iff.mpr h)]
    rfl

section

variable (hsettings : (d.load Yaml.read).perform out w = (.ok settings, w))

include hsettings

theorem endsEarly_of_workflow {e : Fault}
    (h : (Workflow.loadNamed Yaml.read choice.file choice.workflow).perform out w = (.error e, w)) :
    EndsEarly d choice out w := by
  have hsettings' := perform_attempt_ok_iff.mpr hsettings
  have hattempt := perform_attempt_ok_iff.mpr h
  have hbroken := @endsEarly_of_error d choice out w e
  cases e with
  | definition errors =>
    obtain ⟨w', hlog, hlogged⟩ := perform_logErrors errors out w
    refine ⟨_, w', .refused hsettings, hlogged, fun dryRun => ?_⟩
    rw [runWorkflow, perform_bind_of_ok hsettings']
    dsimp only
    rw [orRefuse, perform_bind_of_ok hattempt]
    exact perform_bind_of_ok hlog _
  | _ =>
    refine hbroken fun dryRun => ?_
    rw [runWorkflow, perform_bind_of_ok hsettings']
    dsimp only
    rw [orRefuse, perform_bind_of_ok hattempt]
    rfl

theorem endsEarly_of_vars
    (hworkflow : (Workflow.loadNamed Yaml.read choice.file choice.workflow).perform out w =
      (.ok workflow, w)) {e : Fault} (h : Variables.read (choice.vars.getD []) = .error e) :
    EndsEarly d choice out w := by
  have hsettings' := perform_attempt_ok_iff.mpr hsettings
  have hworkflow' := perform_attempt_ok_iff.mpr hworkflow
  have hbroken := @endsEarly_of_error d choice out w e
  cases e with
  | variableItem f =>
    obtain ⟨w', hlog, hlogged⟩ := logged_log .error f.message out w
    refine ⟨_, w', .refused hsettings, hlogged, fun dryRun => ?_⟩
    rw [runWorkflow, perform_bind_of_ok hsettings']
    dsimp only
    rw [orRefuse, perform_bind_of_ok hworkflow']
    dsimp only
    rw [h]
    exact perform_bind_of_ok hlog _
  | _ =>
    refine hbroken fun dryRun => ?_
    rw [runWorkflow, perform_bind_of_ok hsettings']
    dsimp only
    rw [orRefuse, perform_bind_of_ok hworkflow']
    dsimp only
    rw [h]
    rfl

end

/-- **The preparations are made, or the command ends early.** -/
theorem runWorkflow_cases (d : SettingsDirectory) (choice : RunChoice) (out : Surroundings)
    (w : World) :
    (∃ settings workflow vars, Ready d choice out w settings workflow vars) ∨
      EndsEarly d choice out w := by
  have hsettings := perform_of_reads (d.load_respects Yaml.read) out w
  have hworkflow :=
    perform_of_reads (Workflow.loadNamed_respects Yaml.read choice.file choice.workflow) out w
  cases hs : ((d.load Yaml.read).perform out w).1 with
  | error e =>
    rw [hs] at hsettings
    exact .inr (endsEarly_of_settings hsettings)
  | ok settings =>
    rw [hs] at hsettings
    cases hw : ((Workflow.loadNamed Yaml.read choice.file choice.workflow).perform out w).1 with
    | error e =>
      rw [hw] at hworkflow
      exact .inr (endsEarly_of_workflow hsettings hworkflow)
    | ok workflow =>
      rw [hw] at hworkflow
      cases hv : Variables.read (choice.vars.getD []) with
      | error e => exact .inr (endsEarly_of_vars hsettings hworkflow hv)
      | ok vars => exact .inl ⟨settings, workflow, vars, hsettings, hworkflow, hv⟩

end Command

/-! ### What a run does to the world -/

/-- Observers that respect a preorder, whatever they are told. -/
def Hooks.Respects (R : World → World → Prop) (h : Hooks) : Prop :=
  ∀ n, ∀ a ∈ h.answer n, Act.Respects R a

namespace Run

variable {R : World → World → Prop} [AllowsCalls R] {r : Run} (hhooks : r.hooks.Respects R)
  (hpause : ∀ seconds, Respects R (record (.slept seconds)))

omit [AllowsCalls R] in
theorem tell_respects [IsPreorder World R] {h : Hooks} (hhooks : h.Respects R) (n : Notice) :
    Respects R (h.tell n) := by
  rw [Hooks.tell]
  cases ha : h.answer n with
  | none => exact .pure _
  | some a => exact hhooks n a ha

include hhooks in
theorem attempt_respects (results : List StepResult) (index : Nat) (s : Step) (number : Nat) :
    Respects R (r.attempt results index s number) := by
  rw [attempt_eq]
  refine .bind (.ofExcept _) fun type => .bind (log_respects _ _) fun _ => ?_
  refine .bind (tell_respects hhooks _) fun _ => .bind (s.execute_respects _ _ _ _) fun x => ?_
  exact .bind (.forM fun n => tell_respects hhooks n) fun _ => .pure _

include hhooks hpause

theorem retry_respects (failed : String) (index : Nat) (target : Step) (maxRetries delayMs : Int)
    (left number : Nat) (results : List StepResult) :
    Respects R (r.retry failed index target maxRetries delayMs left number results) := by
  induction left generalizing number results with
  | zero => exact .bind (.ofExcept _) fun _ => .bind (log_respects _ _) fun _ => .pure _
  | succ left ih =>
    refine .bind (.ofExcept _) fun _ => .bind (log_respects _ _) fun _ => ?_
    refine .bind (.ite (fun _ => ?_) fun _ => .pure _) fun _ => ?_
    · refine .bind (.ofExcept _) fun seconds => .bind .read fun out => .bind .get fun w => ?_
      cases out.sleep w.readings seconds with
      | some fault => exact .throw _
      | none => exact hpause seconds
    exact .bind (attempt_respects hhooks _ _ _ _) fun x =>
      .ite (fun _ => .pure _) fun _ => ih _ _

theorem recover_respects (index : Nat) (s : Step) (results : List StepResult) :
    Respects R (r.recover index s results) := by
  have hends (severity : Severity) (message : String) (goesOn : Bool) :
      Respects R (do log severity message; return (results, goesOn)) :=
    .bind (log_respects _ _) fun _ => .pure _
  refine .bind ?_ fun action => ?_
  · unfold actionAfter
    split
    · exact .pure _
    · exact .bind (.ofExcept _) fun _ => .bind (log_respects _ _) fun _ => .pure _
  · rcases action with _ | _ | _ | ⟨target, maxRetries, delayMs⟩
    · exact hends _ _ _
    · exact hends _ _ _
    · exact hends _ _ _
    · dsimp only
      cases target.resolve r.workflow.stepNames with
      | error e => exact hends _ _ _
      | ok i =>
        dsimp only
        cases r.workflow.steps[i]? with
        | none => exact .pure _
        | some t => exact retry_respects hhooks hpause _ _ _ _ _ _ _ _

theorem steps_respects (index : Nat) (rest : List Step) (results : List StepResult) :
    Respects R (r.steps index rest results) := by
  induction rest generalizing index results with
  | nil => exact .pure _
  | cons s rest ih =>
    refine .bind (attempt_respects hhooks _ _ _ _) fun x => .ite (fun _ => ih _ _) fun _ => ?_
    exact .bind (recover_respects hhooks hpause _ _ _) fun p =>
      .ite (fun _ => ih _ _) fun _ => .pure _

/-- **A run does nothing but what its attempts and its observers do**, and pauses. -/
theorem execute_respects : Respects R r.execute := by
  refine .bind (log_respects _ _) fun _ => .bind (.attempt ?_) fun outcome => ?_
  · refine .bind (steps_respects hhooks hpause _ _ _) fun p => ?_
    simp only [notify_onRunComplete]
    exact .bind (tell_respects hhooks _) fun _ => .pure _
  · cases outcome with
    | error e => exact .throw _
    | ok report =>
      dsimp only
      cases report.ending with
      | completed => exact .bind (log_respects _ _) fun _ => .pure _
      | halted step index => exact .bind (log_respects _ _) fun _ => .pure _

end Run

/-! ### Runs with their logs -/

/-- From `w` to `w'` files have been altered by the changes that have been kept since, and nothing
has been printed. -/
def World.Works (w w' : World) : Prop := w.Extends w' ∧ w'.printed = w.printed

namespace World

variable {w w' : World}

theorem works_changedBy (w : World) (cs : List Change) : w.Works (w.changedBy cs) :=
  ⟨w.extends_changedBy cs, rfl⟩

/-- Nothing has happened to files. -/
theorem works_of_eq (hfiles : w'.files = w.files) (hchanges : w'.changes = w.changes)
    (hprinted : w'.printed = w.printed) : w.Works w' :=
  ⟨extends_of_changes (by rw [hchanges, List.append_nil]) (by rw [hfiles, FileTree.applyAll_nil]),
    hprinted⟩

instance : AllowsCalls Works where
  refl w := ⟨refl_of Extends w, rfl⟩
  trans _ _ _ h h' := ⟨trans_of Extends h.1 h'.1, h'.2.trans h.2⟩
  log _ _ := works_of_eq rfl rfl rfl
  clock _ _ := works_of_eq rfl rfl rfl
  call _ _ _ := works_of_eq rfl rfl rfl
  change w c := w.works_changedBy [c]

theorem Logged.works (h : w.Logged w') : w.Works w' := by
  obtain ⟨lines, rfl⟩ := h
  exact works_of_eq rfl rfl rfl

end World

namespace RunLog

theorem update_works (f : RunLog → RunLog) : Respects World.Works (update f) :=
  fun _ _ => World.works_of_eq rfl rfl rfl

theorem save_works : Respects World.Works save := by
  refine .bind now_respects fun now => .bind (update_works _) fun _ => .bind .get fun w => ?_
  cases w.runLog with
  | none => exact .pure _
  | some log =>
    refine .bind (fun out w => ?_) fun _ => .bind (.ofExcept _) fun _ =>
      .bind (change_respects _) fun _ => fun out w => ?_
    · rcases openForWriting_cases log.temporaryFile.text out w with ⟨e, h⟩ | h
      · rw [h]
        exact refl_of World.Works w
      · rw [h]
        exact w.works_changedBy _
    · rcases renameFile_cases log.temporaryFile.text log.file.text out w with ⟨e, h⟩ | h
      · rw [h]
        exact refl_of World.Works w
      · rw [h]
        exact w.works_changedBy _

theorem hooks_works : (hooks {}).Respects World.Works := by
  intro n a ha
  cases n with
  | stepCompleted s x =>
    cases ha
    exact .bind (update_works _) fun _ => save_works
  | stepStarted s i => cases ha
  | stepFailed s e => cases ha
  | runCompleted xs => cases ha

theorem start_works (log : RunLog) : Respects World.Works (start log) := by
  refine .bind (fun out w => ?_) fun _ => .bind save_works fun _ => .pure _
  obtain ⟨cs, hcs, -⟩ := ensureDirectory_respects log.directory out w
  rw [hcs]
  exact w.works_changedBy cs

theorem create_works (directory : Path) (workflow input : String) (vars : List (Value × Value))
    (runId : String) : Respects World.Works (create directory workflow input vars runId) := by
  have hkeep (log : RunLog) :
      Respects World.Works (do modify fun w => { w with runLog := some log }; return log) :=
    .bind (fun _ _ => World.works_of_eq rfl rfl rfl) fun _ => .pure _
  unfold create
  dsimp only
  split
  · exact .bind now_respects fun _ => .bind .read fun _ => .bind (.pure _) fun _ =>
      .bind now_respects fun _ => hkeep _
  · exact .bind (.pure _) fun _ => .bind now_respects fun _ => hkeep _

/-- From `w` to `w'` a run log has been written, and nothing has been changed after that. -/
structure Written (log : RunLog) (out : Surroundings) (w w' : World) : Prop where
  kept : w'.runLog = some log
  stored : log.Stored out w'.files
  moved : ∃ cs, w'.changes =
    w.changes ++ (cs ++ [.rename (log.temporaryPlace out) (log.place out)])

variable {log : RunLog} {out : Surroundings} {w w₁ w' w'' : World}

theorem Written.of_still (h : log.Written out w w') (hstill : w'.Still w'') :
    log.Written out w w'' := by
  obtain ⟨hkept, hstored, cs, hchanges⟩ := h
  exact ⟨hstill.runLog.trans hkept, hstill.files ▸ hstored, cs, hstill.changes.trans hchanges⟩

/-- The log that is kept is changed and written. -/
theorem written_of_save (hworks : w.Works w₁) (hlog : w₁.runLog = some log) (f : RunLog → RunLog)
    (h : (do update f; save).perform out w₁ = (.ok (), w')) :
    ∃ time, { f log with updatedAt := time }.Written out w w' := by
  have hwriting := update_save_writing hlog f h
  refine ⟨_, hwriting.kept, hwriting.stored rfl, ?_⟩
  rw [perform_bind_of_ok (perform_update f out w₁), hlog] at h
  rcases save_cases (w := { w₁ with runLog := some (f log) }) rfl out with
    ⟨e, cs, hsave, -⟩ | ⟨text, cs, -, hsave, -⟩
  · cases hsave.symm.trans h
  · cases hsave.symm.trans h
    refine ⟨w.since w₁ ++ cs, ?_⟩
    rw [List.append_assoc, ← List.append_assoc w.changes, ← hworks.1.changes_eq]
    rfl

end RunLog

namespace Run

/-- A fault that ends a run is none of a definition. -/
theorem escaped_ne_definition (e : Fault) (errors : List DefinitionError) :
    escaped e ≠ .definition errors := by
  intro h
  unfold escaped at h
  split at h
  · rename_i hpasses
    subst h
    cases hpasses
  · cases h

/-- A report of a run of an accepted workflow has results. -/
theorem results_ne_nil_of_execute_ok {r : Run} {out : Surroundings} {w w' : World} {report : Report}
    (hcheck : r.workflow.check = .ok ()) (h : r.execute.perform out w = (.ok report, w')) :
    report.results ≠ [] := by
  obtain ⟨blocks, -, -, -, hresults, hends, -⟩ := execute_blocks hcheck h
  obtain ⟨b, rest, rfl⟩ := List.exists_cons_of_ne_nil hends.ne_nil
  rw [hresults, List.flatMap_cons]
  exact List.append_ne_nil_of_left_ne_nil b.results_ne_nil _

end Run

namespace Command

/-- How a run with a log has ended that leaves an exit code, as the record in the file of the log tells
it. -/
inductive Logged (out : Surroundings) (w w' : World) : Nat → Prop
  /-- The output of the last attempt has been printed. -/
  | completed {log : RunLog} {results : List StepResult} {x : StepResult} :
    log.Written out w w' → log.record.Tells "completed" results none none →
    results.getLast? = some x → w'.printed = w.printed ++ [x.output] → Logged out w w' 0
  | halted {log : RunLog} {results : List StepResult} {step : String} : log.Written out w w' →
    log.record.Tells "halted" results (some step) none → Logged out w w' 1
  | failed {log : RunLog} {results : List StepResult} {reason : String} : log.Written out w w' →
    log.record.Tells "failed" results none (some reason) → Logged out w w' 1

variable {settings : Settings} {directory : Path} {workflow : Workflow} {input : String}
  {vars : List (Value × Value)} {out : Surroundings} {w w' : World} {code : Nat}

/-- What is done when the run has ended one way or another. -/
def conclude (file : Path) : Except Fault Report → Act Nat
  | .error (.definition errors) => do
    RunLog.fail (Fault.definition errors).message
    logErrors errors
    return 2
  | .error e =>
    if Run.passesOn e then do
      RunLog.fail e.message
      logError e.message
      return 1
    else throw e
  | .ok report => do
    RunLog.finish report.status report.haltedStep?
    info s!"Run log written to {file.text}"
    match report.haltedStep? with
    | some step =>
      logError s!"Workflow halted at step '{step}': {failureMessage report}"
      return 1
    | none =>
      if let some r := report.results.getLast? then printLine r.output
      return 0

/-- A run with a log comes to its end with the log under way. -/
theorem exists_run_of_runLogged (hcheck : workflow.check = .ok ())
    (h : (runLogged settings directory workflow input vars).perform out w = (.ok code, w')) :
    ∃ (file : Path) (log : RunLog) (w₁ : World) (outcome : Except Fault Report) (w₂ : World),
      log.Kept out [] w₁ ∧ w.Works w₂ ∧
      ({ workflow, settings, input, vars, hooks := RunLog.hooks {} : Run }.execute).perform out w₁ =
        (outcome, w₂) ∧ (conclude file outcome).perform out w₂ = (.ok code, w') := by
  obtain ⟨log, w₁, hcreate, h⟩ := perform_bind_ok_iff.mp h
  obtain ⟨file, w₂, hstart, h⟩ := perform_bind_ok_iff.mp h
  obtain ⟨_, w₃, htold, h⟩ := perform_bind_ok_iff.mp h
  obtain ⟨outcome, w₄, hrun, h⟩ := perform_bind_ok_iff.mp h
  rw [perform_attempt_ok_iff, perform_bind, perform_ofExcept, hcheck] at hrun
  have hlogged : w₂.Logged w₃ := by
    cases htold
    exact ⟨_, rfl⟩
  refine ⟨file, log, w₃, outcome, w₄, ?_, ?_, hrun, h⟩
  · obtain ⟨-, hlog, hfresh⟩ := RunLog.create_ok hcreate
    obtain ⟨time, hlog', hstored⟩ := RunLog.start_stored hlog hstart
    rw [hfresh] at hlog' hstored
    exact RunLog.Kept.of_still ⟨time, hlog', hstored⟩ hlogged.still
  · have hcreated := (RunLog.create_works _ _ _ _ _).of_perform hcreate
    have hstarted := (RunLog.start_works log).of_perform hstart
    have hexecuted := (Run.execute_respects (R := World.Works) RunLog.hooks_works fun _ _ _ =>
      World.works_of_eq rfl rfl rfl).of_perform hrun
    exact trans_of World.Works (trans_of World.Works hcreated hstarted)
      (trans_of World.Works hlogged.works hexecuted)

/-- After a fault the log is failed. -/
theorem logged_of_fault {file : Path} {e : Fault} {log : RunLog} {results : List StepResult}
    {time : Instant} {w₁ : World} (hworks : w.Works w₁)
    (hlog : w₁.runLog = some (log.running results time))
    (h : (conclude file (.error (Run.escaped e))).perform out w₁ = (.ok code, w')) :
    Logged out w w' code := by
  unfold conclude at h
  split at h
  · rename_i heq
    exact absurd (Except.error.inj heq) (Run.escaped_ne_definition e _)
  · split at h
    · obtain ⟨_, w₂, hfail, h⟩ := perform_bind_ok_iff.mp h
      obtain ⟨time, hwritten⟩ := RunLog.written_of_save hworks hlog _ hfail
      cases h
      exact .failed (hwritten.of_still ⟨rfl, rfl, rfl⟩) (RunLog.record_tells _)
    · cases h
  · rename_i heq
    cases heq

/-- After a report the log is finished. -/
theorem logged_of_report {file : Path} {report : Report} {log : RunLog} {time : Instant}
    {w₁ : World} (hworks : w.Works w₁)
    (hlog : w₁.runLog = some (log.running report.results time)) (hne : report.results ≠ [])
    (h : (conclude file (.ok report)).perform out w₁ = (.ok code, w')) : Logged out w w' code := by
  obtain ⟨_, w₂, hfinish, h⟩ := perform_bind_ok_iff.mp h
  obtain ⟨_, w₃, hwrote, h⟩ := perform_bind_ok_iff.mp h
  obtain ⟨log', hwritten, htells⟩ : ∃ log' : RunLog, log'.Written out w w₂ ∧
      log'.record.Tells report.status report.results report.haltedStep? none := by
    obtain ⟨_, hwritten⟩ := RunLog.written_of_save hworks hlog _ hfinish
    exact ⟨_, hwritten, RunLog.record_tells _⟩
  have hlogged : w₂.Logged w₃ := by
    cases hwrote
    exact ⟨_, rfl⟩
  have hwritten' := hwritten.of_still hlogged.still
  cases hending : report.ending with
  | halted step index =>
    have hstatus : report.status = "halted" := by simp [Report.status, Report.completed, hending]
    have hstep : report.haltedStep? = some step := by simp [Report.haltedStep?, hending]
    simp only [hstep] at h
    cases h
    rw [hstatus, hstep] at htells
    exact .halted (hwritten'.of_still ⟨rfl, rfl, rfl⟩) htells
  | completed =>
    have hlast := List.getLast?_eq_some_getLast hne
    have hprinted : w₃.printed = w.printed := by
      have hfinished : Respects World.Works (RunLog.finish report.status report.haltedStep?) :=
        .bind (RunLog.update_works _) fun _ => RunLog.save_works
      rw [hlogged.works.2, (hfinished.of_perform hfinish).2, hworks.2]
    have hstatus : report.status = "completed" := by simp [Report.status, Report.completed, hending]
    have hstep : report.haltedStep? = none := by simp [Report.haltedStep?, hending]
    simp only [hstep, hlast] at h
    cases h
    rw [hstatus, hstep] at htells
    exact .completed (hwritten'.of_still ⟨rfl, rfl, rfl⟩) htells hlast (congrArg (· ++ _) hprinted)

/-- **Exit code and log of a run agree.** -/
theorem runLogged_ok (hacc : workflow.errors = .ok [])
    (h : (runLogged settings directory workflow input vars).perform out w = (.ok code, w')) :
    Logged out w w' code := by
  have hcheck := Workflow.check_eq_ok_iff.mpr hacc
  obtain ⟨file, log, w₁, outcome, w₂, hkept, hworks, hrun, h⟩ := exists_run_of_runLogged hcheck h
  cases outcome with
  | error e =>
    obtain ⟨cause, rfl, -⟩ := Run.execute_error hrun
    obtain ⟨recorded, haborts⟩ := Run.aborts_of_execute_error hacc rfl hrun
    obtain ⟨time, hlog⟩ := haborts.runLog_eq hacc rfl hkept
    exact logged_of_fault hworks hlog h
  | ok report =>
    obtain ⟨time, hlog, -⟩ := (Run.exists_ended_of_execute_ok hacc rfl hkept hrun).2
    exact logged_of_report hworks hlog (Run.results_ne_nil_of_execute_ok hcheck hrun) h

/-! ### The command -/

variable {d : SettingsDirectory} {choice : RunChoice}

/-- What has become of a command that leaves an exit code. -/
inductive Returns (d : SettingsDirectory) (choice : RunChoice) (out : Surroundings) (w : World) :
    Nat → World → Prop
  | unconfigured {f : SettingsFault} {w' : World} :
    ((d.load Yaml.read).perform out w).1 = .error (.settings f) → w.Logged w' →
      Returns d choice out w 1 w'
  | refused {settings : Settings} {w' : World} :
    ((d.load Yaml.read).perform out w).1 = .ok settings → w.Logged w' → Returns d choice out w 2 w'
  | planned {settings : Settings} {w' : World} :
    ((d.load Yaml.read).perform out w).1 = .ok settings → choice.dryRun = true →
      Returns d choice out w 0 w'
  | run {settings : Settings} {code : Nat} {w' : World} :
    ((d.load Yaml.read).perform out w).1 = .ok settings → choice.dryRun = false →
      Logged out w w' code → Returns d choice out w code w'

/-- A dry run that comes this far succeeds. -/
theorem Ready.planned {settings : Settings} {workflow : Workflow} {vars : List (Value × Value)}
    (hready : Ready d choice out w settings workflow vars) (hdry : choice.dryRun = true)
    (h : (runWorkflow d choice).perform out w = (.ok code, w')) : code = 0 := by
  rw [hready.perform_eq, proceed, if_pos hdry] at h
  obtain ⟨_, w₁, -, h⟩ := perform_bind_ok_iff.mp h
  obtain ⟨_, w₂, -, h⟩ := perform_bind_ok_iff.mp h
  obtain ⟨_, w₃, -, h⟩ := perform_bind_ok_iff.mp h
  cases h
  rfl

/-- Another run that comes this far leaves a log. -/
theorem Ready.logged {settings : Settings} {workflow : Workflow} {vars : List (Value × Value)}
    (hready : Ready d choice out w settings workflow vars) (hdry : choice.dryRun = false)
    (h : (runWorkflow d choice).perform out w = (.ok code, w')) : Logged out w w' code := by
  rw [hready.perform_eq, proceed, if_neg (by simp [hdry])] at h
  obtain ⟨logs, w₁, hlogs, h⟩ := perform_bind_ok_iff.mp h
  obtain rfl := (d.logDirectory_respects (R := Eq) settings).of_perform hlogs
  exact runLogged_ok (Workflow.errors_eq_nil_of_loadNamed hready.workflow) h

theorem returns_of_runWorkflow (h : (runWorkflow d choice).perform out w = (.ok code, w')) :
    Returns d choice out w code w' := by
  rcases runWorkflow_cases d choice out w with ⟨settings, workflow, vars, hready⟩ |
    ⟨outcome, w₁, hended, hlogged, hboth⟩
  · have hsettings := congrArg Prod.fst hready.settings
    cases hdry : choice.dryRun with
    | true =>
      obtain rfl := hready.planned hdry h
      exact .planned hsettings hdry
    | false => exact .run hsettings hdry (hready.logged hdry h)
  · cases (hboth choice.dryRun).symm.trans h
    cases hended with
    | unconfigured hfault => exact .unconfigured (congrArg Prod.fst hfault) hlogged
    | refused hsettings => exact .refused (congrArg Prod.fst hsettings) hlogged

/-- A dry run leaves no trace, whatever becomes of it. -/
theorem unaffected_of_dryRun (hdry : choice.dryRun = true) {outcome : Except Fault Nat}
    (h : (runWorkflow d choice).perform out w = (outcome, w')) : w.Unaffected w' := by
  rcases runWorkflow_cases d choice out w with ⟨settings, workflow, vars, hready⟩ |
    ⟨outcome', w₁, -, hlogged, hboth⟩
  · rw [hready.perform_eq, proceed, if_pos hdry] at h
    have hplan : Respects World.Unaffected (do
        printLine (← Act.ofExcept (Plan.describe workflow))
        info "[DRY RUN] Workflow validation successful"
        return 0) :=
      .bind (.ofExcept _) fun _ => .bind (fun _ _ => ⟨rfl, rfl, rfl⟩) fun _ =>
        .bind (fun _ _ => ⟨rfl, rfl, rfl⟩) fun _ => .pure _
    exact hplan.of_perform h
  · cases (hboth choice.dryRun).symm.trans h
    exact hlogged.unaffected

/-- A dry run that leaves an exit code tells whether the run would get past its preparations. -/
theorem foretells_of_dryRun
    (h : (runWorkflow d { choice with dryRun := true }).perform out w = (.ok code, w')) :
    code = 0 ↔ (∃ settings, ((d.load Yaml.read).perform out w).1 = .ok settings) ∧
      ((runWorkflow d { choice with dryRun := false }).perform out w).1 ≠ .ok 2 := by
  rcases runWorkflow_cases d choice out w with ⟨settings, workflow, vars, hready⟩ |
    ⟨outcome, w₁, hended, -, hboth⟩
  · have hready' (dryRun : Bool) :
        Ready d { choice with dryRun := dryRun } out w settings workflow vars :=
      ⟨hready.settings, hready.workflow, hready.vars⟩
    have hnever : ((runWorkflow d { choice with dryRun := false }).perform out w).1 ≠ .ok 2 := by
      intro hrefused
      cases (hready' false).logged rfl (Prod.ext hrefused rfl)
    exact iff_of_true ((hready' true).planned rfl h)
      ⟨⟨settings, congrArg Prod.fst hready.settings⟩, hnever⟩
  · rw [hboth false]
    cases (hboth true).symm.trans h
    cases hended with
    | unconfigured hfault =>
      refine iff_of_false Nat.one_ne_zero ?_
      rintro ⟨⟨settings, hsettings⟩, -⟩
      rw [hfault] at hsettings
      cases hsettings
    | refused hsettings =>
      exact iff_of_false (by decide) fun hpast => hpast.2 rfl

/-! ### The contract -/

/-- The settings that arguments name. -/
def settingsNamed (configDir : Option String) : Act Settings := do
  (← SettingsDirectory.named configDir).load Yaml.read

/-- The program with arguments that ask for a run. -/
def asked (configDir : Option String) (level : LogChoice) (choice : RunChoice) : Act Nat :=
  Arguments.perform ⟨configDir, some (.run choice, level)⟩

/-- What is guaranteed of the command that runs a workflow, with given arguments. -/
structure Contract (configDir : Option String) (level : LogChoice) (choice : RunChoice)
    (out : Surroundings) (w : World) : Prop where
  /-- A refusal leaves no trace, -/
  refused : ∀ w', (asked configDir level choice).perform out w = (.ok 2, w') → w.Unaffected w'
  /-- nor does a dry run, whatever becomes of it, -/
  dry : choice.dryRun = true → ∀ outcome w',
    (asked configDir level choice).perform out w = (outcome, w') →
      w.Unaffected w'
  /-- nor do settings that are at fault. -/
  unconfigured : ∀ f, ((settingsNamed configDir).perform out w).1 = .error (.settings f) → ∃ w',
    (asked configDir level choice).perform out w = (.ok 1, w') ∧
      w.Unaffected w'
  /-- A dry run succeeds just if the same call without it gets past the preparations. -/
  foretells : ∀ code w',
    (asked configDir level { choice with dryRun := true }).perform out w = (.ok code, w') →
      (code = 0 ↔ (∃ settings, ((settingsNamed configDir).perform out w).1 = .ok settings) ∧
        ((asked configDir level { choice with dryRun := false }).perform out w).1 ≠ .ok 2)
  /-- A run succeeds just if it has written a log, and the record in its file has the status of a
  completed run. -/
  completed : choice.dryRun = false → ∀ code w',
    (asked configDir level choice).perform out w = (.ok code, w') →
      (code = 0 ↔ ∃ log : RunLog, log.Written out w w' ∧
        log.record.entry "status" = .str "completed")
  /-- Then it has printed the output of the last result in the record, and nothing else. -/
  printed : choice.dryRun = false → ∀ w',
    (asked configDir level choice).perform out w = (.ok 0, w') →
      ∃ (log : RunLog) (results : List StepResult) (x : StepResult), log.Written out w w' ∧
        log.record.Tells "completed" results none none ∧ results.getLast? = some x ∧
        w'.printed = w.printed ++ [x.output]
  /-- A failure that is not one of the settings has left a log whose record tells of it: the step that
  the run has halted at, or the reason why it has failed. -/
  broken : ∀ settings w', ((settingsNamed configDir).perform out w).1 = .ok settings →
    (asked configDir level choice).perform out w = (.ok 1, w') →
      ∃ (log : RunLog) (results : List StepResult), log.Written out w w' ∧
        ((∃ step, log.record.Tells "halted" results (some step) none) ∨
          ∃ reason, log.record.Tells "failed" results none (some reason))

theorem Logged.written (h : Logged out w w' code) : ∃ log : RunLog, log.Written out w w' ∧
    (code = 0 ↔ log.record.entry "status" = .str "completed") := by
  cases h with
  | completed hwritten htells _ _ => exact ⟨_, hwritten, iff_of_true rfl htells.status⟩
  | halted hwritten htells | failed hwritten htells =>
    refine ⟨_, hwritten, iff_of_false Nat.one_ne_zero ?_⟩
    rw [htells.status]
    simp

/-- Where nothing has been changed, no log has been written. -/
theorem not_written_of_unaffected (h : w.Unaffected w') {log : RunLog} :
    ¬log.Written out w w' := by
  rintro ⟨-, -, cs, hchanges⟩
  rw [h.changes] at hchanges
  simpa using congrArg List.length hchanges

/-- What returns without being dry has succeeded just if it has left the log of a completed run. -/
theorem Returns.completed_iff (h : Returns d choice out w code w') (hrun : choice.dryRun = false) :
    code = 0 ↔ ∃ log : RunLog, log.Written out w w' ∧
      log.record.entry "status" = .str "completed" := by
  cases h with
  | unconfigured _ hlogged =>
    exact iff_of_false Nat.one_ne_zero fun ⟨_, hwritten, _⟩ =>
      not_written_of_unaffected hlogged.unaffected hwritten
  | refused _ hlogged =>
    exact iff_of_false (by decide) fun ⟨_, hwritten, _⟩ =>
      not_written_of_unaffected hlogged.unaffected hwritten
  | planned _ hdry => cases hrun.symm.trans hdry
  | run _ _ hlog =>
    obtain ⟨log, hwritten, hiff⟩ := hlog.written
    rw [hiff]
    refine ⟨fun hstatus => ⟨log, hwritten, hstatus⟩, fun ⟨log', hwritten', hstatus⟩ => ?_⟩
    cases hwritten.kept.symm.trans hwritten'.kept
    exact hstatus

/-- **The contract of the command that runs a workflow**, in a directory of settings. -/
theorem contract_of_directory {configDir : Option String}
    (hd : (SettingsDirectory.named configDir).perform out w = (.ok d, w)) (level : LogChoice) :
    Contract configDir level choice out w := by
  have hasked (choice : RunChoice) : (asked configDir level choice).perform out w =
      (runWorkflow d choice).perform out w := perform_bind_of_ok hd _
  have hsettings : (settingsNamed configDir).perform out w =
      (d.load Yaml.read).perform out w := perform_bind_of_ok hd _
  have hreturns {code : Nat} {w' : World}
      (h : (asked configDir level choice).perform out w = (.ok code, w')) :
      Returns d choice out w code w' := returns_of_runWorkflow ((hasked choice).symm.trans h)
  exact {
    refused := fun w' h => by
      cases hreturns h with
      | refused _ hlogged => exact hlogged.unaffected
      | run _ _ hlog => cases hlog
    dry := fun hdry outcome w' h => unaffected_of_dryRun hdry ((hasked choice).symm.trans h)
    unconfigured := fun f hfault => by
      rw [hsettings] at hfault
      have hload := perform_of_reads (d.load_respects Yaml.read) out w
      rw [hfault] at hload
      obtain ⟨w', hlogged, hboth⟩ := runWorkflow_of_settings choice hload
      exact ⟨w', (hasked choice).trans (hboth choice.dryRun), hlogged.unaffected⟩
    foretells := fun code w' h => by
      rw [hsettings, hasked]
      exact foretells_of_dryRun ((hasked _).symm.trans h)
    completed := fun hrun code w' h => (hreturns h).completed_iff hrun
    printed := fun hrun w' h => by
      cases hreturns h with
      | planned _ hdry => cases hrun.symm.trans hdry
      | run _ _ hlog =>
        cases hlog with
        | completed hwritten htells hlast hprinted =>
          exact ⟨_, _, _, hwritten, htells, hlast, hprinted⟩
    broken := fun settings w' hconfigured h => by
      rw [hsettings] at hconfigured
      cases hreturns h with
      | unconfigured hfault _ => cases hconfigured.symm.trans hfault
      | run _ _ hlog =>
        cases hlog with
        | halted hwritten htells => exact ⟨_, _, hwritten, .inl ⟨_, htells⟩⟩
        | failed hwritten htells => exact ⟨_, _, hwritten, .inr ⟨_, htells⟩⟩ }

end Command

/-! ### Directories that cannot be told -/

theorem homePath_error {name : String} {out : Surroundings} {w w' : World} {e : Fault}
    (h : (homePath name).perform out w = (.error e, w')) :
    ∃ label message, e = .foreign label message := by
  rcases perform_bind_error_iff.mp h with h | ⟨own, w₁, -, h⟩
  · rcases perform_bind_error_iff.mp h with h | ⟨_, _, -, h⟩ <;> cases h
  · split at h
    · dsimp only at h
      split at h
      · cases h
        exact ⟨_, _, rfl⟩
      · cases h
    · cases h
      exact ⟨_, _, rfl⟩

theorem expandHome_error {p : Path} {out : Surroundings} {w w' : World} {e : Fault}
    (h : (expandHome p).perform out w = (.error e, w')) :
    ∃ label message, e = .foreign label message := by
  unfold expandHome at h
  split at h
  · split at h
    · cases h
    · rcases perform_bind_error_iff.mp h with h | ⟨_, _, -, h⟩
      · exact homePath_error h
      · cases h
  · cases h

/-- Only a home directory that cannot be told keeps a directory of settings from being named. -/
theorem SettingsDirectory.named_error {name : Option String} {out : Surroundings} {w w' : World}
    {e : Fault} (h : (named name).perform out w = (.error e, w')) :
    ∃ label message, e = .foreign label message := by
  have hstandard {w' : World} (h : standard.perform out w = (.error e, w')) :
      ∃ label message, e = .foreign label message := by
    rcases perform_bind_error_iff.mp h with h | ⟨_, _, -, h⟩
    · exact homePath_error h
    · cases h
  unfold named at h
  split at h
  · exact hstandard h
  · exact hstandard h
  · rcases perform_bind_error_iff.mp h with h | ⟨_, _, -, h⟩
    · exact expandHome_error h
    · cases h

/-- **The contract of the command that runs a workflow.** It holds of all arguments, settings, files
and surroundings. -/
theorem Arguments.perform_contract (configDir : Option String) (level : Command.LogChoice)
    (choice : Command.RunChoice) (out : Surroundings) (w : World) :
    Command.Contract configDir level choice out w := by
  have hnamed := perform_of_reads (SettingsDirectory.named_respects configDir) out w
  cases hd : ((SettingsDirectory.named configDir).perform out w).1 with
  | ok d =>
    rw [hd] at hnamed
    exact Command.contract_of_directory hnamed level
  | error e =>
    rw [hd] at hnamed
    obtain ⟨label, message, rfl⟩ := SettingsDirectory.named_error hnamed
    have hasked (choice : Command.RunChoice) :
        (Command.asked configDir level choice).perform out w =
          (.error (.foreign label message), w) := perform_bind_of_error hnamed _
    have hsettings : (Command.settingsNamed configDir).perform out w =
        (.error (.foreign label message), w) := perform_bind_of_error hnamed _
    have hnever {choice : Command.RunChoice} {code : Nat} {w' : World}
        (h : (Command.asked configDir level choice).perform out w = (.ok code, w')) : False := by
      cases (hasked choice).symm.trans h
    exact {
      refused := fun w' h => (hnever h).elim
      dry := fun _ outcome w' h => by
        cases (hasked choice).symm.trans h
        exact refl_of World.Unaffected w
      unconfigured := fun f h => by
        rw [hsettings] at h
        cases h
      foretells := fun code w' h => (hnever h).elim
      completed := fun _ code w' h => (hnever h).elim
      printed := fun _ w' h => (hnever h).elim
      broken := fun settings w' _ h => (hnever h).elim }

end StepFlow
