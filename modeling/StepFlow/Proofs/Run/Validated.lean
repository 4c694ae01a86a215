import StepFlow.Proofs.Failure.Reading
import StepFlow.Proofs.Run.Blocks
import StepFlow.Proofs.Workflow.Loading

/-!
# Runs of checked workflows

A run reads the declarations of a workflow once more: the type of a step when it is executed, its
failure policy when it has failed, the target of a retry when this is due. Each of these can go
wrong in a way of its own, and a run is prepared for it: an unknown type is a fault, a malformed
policy stops the run with a warning, a retry without a target stops it with an error.

In a workflow without errors none of this ever happens. Whatever moment a run has reached, its
declarations are read as they were when the workflow was checked. Loaded workflows have no errors,
so that this holds of all of them.

## Main definitions

* `Run.Valid` — at a moment of a run, no declaration is read as malformed

## Main results

* `Run.definitions_hold` — a run of a workflow without errors only comes to such moments
-/

namespace StepFlow

open Act

namespace Run

/-- At a moment of a run, no declaration of the workflow is read as malformed. -/
structure Valid (r : Run) (out : Surroundings) (m : Moment) : Prop where
  /-- The failure policy of a step is evaluated to the action that was read when the workflow was
  checked, without a word in the log. -/
  evaluates : ∀ (i : Nat) (s : Step), r.workflow.steps[i]? = some s →
    s.policyErrors i r.workflow.stepNames = [] ∧
    ∃ action, Policy.read (some (i : Int)) s.onFailure = .ok action ∧
      (actionAfter s (some (i : Int))).perform out m.world = (.ok action, m.world)
  /-- If this action is a retry, its target is the position of a step. -/
  resolves : ∀ (i : Nat) (s : Step) target maxRetries delayMs w', r.workflow.steps[i]? = some s →
    (actionAfter s (some (i : Int))).perform out m.world =
      (.ok (some (.retry target maxRetries delayMs)), w') →
    ∃ t, target.resolve r.workflow.stepNames = .ok t ∧ t < r.workflow.steps.length
  /-- So is the target of a retry that is under way. -/
  retries : ∀ p left, m.phase = .repair p left ∨ m.phase = .retry p left →
    p.target < r.workflow.steps.length
  /-- A step that is executed, in whatever world, leaves a result: its type is known. -/
  executes : ∀ (i : Nat) (s : Step), r.workflow.steps[i]? = some s → ∀ number w₁, ∃ x w₂,
    (s.execute r.settings (r.scope (historyOf m.deeds)) i number).perform out w₁ = (.ok x, w₂)

variable {r : Run} {out : Surroundings} {w : World} {m : Moment}

/-- A run of a workflow without errors has a target for every retry that is under way. -/
theorem Reaches.target_lt (hacc : r.workflow.errors = .ok []) (h : r.Reaches out w m) {p : Repair}
    {left : Nat} (hphase : m.phase = .repair p left ∨ m.phase = .retry p left) :
    p.target < r.workflow.steps.length := by
  have hcharted := h.charted hacc
  obtain ⟨phase, ds, w₀⟩ := m
  rcases hphase with rfl | rfl
  · obtain ⟨_, _, -, hb, -⟩ := hcharted
    obtain ⟨t, ht⟩ := hb.exists_target
    exact (List.getElem?_eq_some_iff.mp ht).1
  · obtain ⟨_, _, _, -, hb, -⟩ := hcharted
    obtain ⟨t, ht⟩ := hb.exists_target
    exact (List.getElem?_eq_some_iff.mp ht).1

/-- **Declarations hold what the check has promised.** A run of a workflow without errors comes to
no moment at which a declaration is read as malformed. Every workflow that has been loaded from a
file is one without errors, and is not refused. -/
theorem definitions_hold (hacc : r.workflow.errors = .ok []) (h : r.Reaches out w m) :
    r.Valid out m ∧
      ∀ parse file out w found w', (Workflow.load parse file).perform out w = (.ok found, w') →
        ∀ f ∈ found, f.2.errors = .ok [] ∧ f.2.check = .ok () := by
  refine ⟨?_, fun parse file out w found w' hload f hf => ?_⟩
  · exact {
      evaluates := fun i s hs => by
        have hs' := Workflow.accepted_of_errors hacc hs
        obtain ⟨action, hread⟩ := hs'.policy
        exact ⟨hs'.policyErrors_eq_nil, action, hread, perform_actionAfter hread out m.world⟩
      resolves := fun i s target maxRetries delayMs w' hs haction => by
        have hs' := Workflow.accepted_of_errors hacc hs
        obtain ⟨action, hread⟩ := hs'.policy
        rw [perform_actionAfter hread] at haction
        cases haction
        obtain ⟨t, hres, hlt⟩ := hs'.target _ _ _ hread
        exact ⟨t, hres, by simpa using hlt⟩
      retries := fun p left hphase => h.target_lt hacc hphase
      executes := fun i s hs number w₁ => by
        obtain ⟨type, htype⟩ := (Workflow.accepted_of_errors hacc hs).type
        obtain ⟨x, w₂, hx, -⟩ :=
          Step.perform_execute htype r.settings (r.scope (historyOf m.deeds)) i number out w₁
        exact ⟨x, w₂, hx⟩ }
  · have herrors := Workflow.errors_eq_nil_of_load hload f hf
    exact ⟨herrors, Workflow.check_eq_ok_iff.mpr herrors⟩

theorem definitions_hold_mended :
    mended.workflow.errors = .ok [] ∧ ∃ m, mended.Reaches .silent {} m ∧
      (∃ ending, m.phase = .ended ending) ∧ mended.Valid .silent m := by
  obtain ⟨report, w', hrun⟩ := exists_report_mended
  obtain ⟨ds, w₁, -, hreach, -⟩ := execute_ok hrun
  have hacc := Workflow.check_eq_ok_iff.mp check_mended
  exact ⟨hacc, _, hreach, ⟨_, rfl⟩, (definitions_hold hacc hreach).1⟩

end Run

end StepFlow
