import StepFlow.Proofs.Run.Blocks
import StepFlow.Proofs.Run.Footprint

/-!
# The history law of runs

The results that a report shows are the results of blocks, one block for each step that has had its
turn, in the order of the steps. What a block looks like is `Block.Lawful`: it depends on the
workflow and on which attempts have succeeded, and on nothing else. The way a run has ended can be
read off its blocks too.

The results are not all that blocks tell. Their deeds are what the run has done, so that a retry is
preceded by the pauses of its block and by no others. Observers are told of attempts, and may pause
on their own account; if they do not, the pauses of the world are those of the blocks.

## Main definitions

* `Run.History` — a report and the world that a run leaves, as told by blocks

## Main results

* `Run.Does.pauses_eq` — deeds make the pauses that are among them
* `Run.execute_history` — every report of a run of an accepted workflow is told by blocks
-/

namespace StepFlow

open Act

namespace Run

/-- A report, and what a run begun in a world has done for it, is told by the blocks that the run
has ended with. -/
structure History (r : Run) (out : Surroundings) (w : World) (report : Report) (w' : World)
    (blocks : List Block) : Prop extends r.Ends report.ending blocks where
  workflow : report.workflow = r.workflow.name
  results : report.results = blocks.flatMap Block.results
  /-- The run has done the deeds of the blocks and told the observer of its end; nothing else has
  happened but lines in the log. -/
  does : ∃ w₁ w₂, r.Does out w (blocks.flatMap Block.deeds) w₁ ∧
    (notify r.hooks.onRunComplete report.results).perform out w₁ = (.ok (), w₂) ∧ w₂.Logged w'
  pauses : r.hooks.Quiet → w'.pauses = w.pauses ++ blocks.flatMap Block.pauses
  status_completed : report.status = "completed" ↔
    blocks.length = r.workflow.steps.length ∧ ∀ b ∈ blocks, b.Passes
  /-- A run that has not been completed has halted at the step of its last block, after which it
  could not go on. -/
  status_halted : report.status ≠ "completed" → report.status = "halted" ∧
    report.haltedIndex? = some (blocks.length - 1) ∧
    (∃ s, r.workflow.steps[blocks.length - 1]? = some s ∧ report.haltedStep? = some s.name) ∧
    ∃ b ∈ blocks.getLast?, ¬b.Passes

variable {r : Run} {out : Surroundings} {w w' : World} {report : Report}

/-! ### Pauses -/

/-- Deeds make the pauses that are among them, if nobody else makes any. -/
theorem Does.pauses_eq (hquiet : r.hooks.Quiet) {ds : List Deed} (h : r.Does out w ds w') :
    w'.pauses = w.pauses ++ pausesOf ds := by
  induction h with
  | nothing => exact (List.append_nil _).symm
  | log _ hlog ih => exact hlog.samePauses.trans ih
  | turn _ _ hx ih =>
    have := (attempt_samePauses hquiet _ _ _ _).of_perform hx
    rw [pausesOf_append, ← List.append_assoc, ← ih, this]
    exact (List.append_nil _).symm
  | pause seconds _ ih =>
    rw [pausesOf_append, ← List.append_assoc, ← ih]
    exact List.filterMap_append
  | retry _ _ hx ih =>
    have := (attempt_samePauses hquiet _ _ _ _).of_perform hx
    rw [pausesOf_append, ← List.append_assoc, ← ih, this]
    exact (List.append_nil _).symm

/-! ### The law -/

theorem status_eq_completed_iff (report : Report) :
    report.status = "completed" ↔ report.ending = .completed := by
  unfold Report.status Report.completed
  cases report.ending <;> simp

/-- **The history law.** A report of a run of an accepted workflow is told by blocks, whatever the
input, the variables, the observers and the surroundings. -/
theorem execute_history (hcheck : r.workflow.check = .ok ())
    (h : r.execute.perform out w = (.ok report, w')) :
    ∃ blocks, r.History out w report w' blocks := by
  obtain ⟨blocks, w₁, w₂, hname, hresults, hends, hdoes, htold, hlogged⟩ :=
    execute_blocks hcheck h
  refine ⟨blocks, ?_⟩
  exact {
    toEnds := hends
    workflow := hname
    results := hresults
    does := ⟨w₁, w₂, hdoes, htold, hlogged⟩
    pauses := fun hquiet => by
      have htold' := (notify_respects hquiet.onRunComplete _).of_perform htold
      rw [← Block.pausesOf_flatMap_deeds, ← hdoes.pauses_eq hquiet, hlogged.samePauses,
        htold']
    status_completed := (status_eq_completed_iff report).trans hends.completed
    status_halted := fun hstatus => by
      rw [Ne, status_eq_completed_iff] at hstatus
      rcases hending : report.ending with _ | ⟨name, i⟩
      · exact absurd hending hstatus
      · obtain ⟨rfl, ⟨s, hs, rfl⟩, hlast⟩ := hends.halted name i hending
        refine ⟨?_, ?_, ⟨s, hs, ?_⟩, hlast⟩
        · simp [Report.status, Report.completed, hending]
        · simp [Report.haltedIndex?, hending]
        · simp [Report.haltedStep?, hending] }

theorem execute_history_mended :
    mended.workflow.check = .ok () ∧
      ∃ report w', mended.execute.perform .silent {} = (.ok report, w') ∧
        ∃ blocks, mended.History .silent {} report w' blocks := by
  obtain ⟨report, w', hrun⟩ := exists_report_mended
  exact ⟨check_mended, report, w', hrun, execute_history check_mended hrun⟩

end Run

end StepFlow
