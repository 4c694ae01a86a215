import StepFlow.Proofs.Activity
import StepFlow.Run.Execution

/-!
# What an attempt leaves behind

An attempt of a step of a known type always leaves a result, whatever becomes of the activity of the
step: its output if it has one, the failure that the step gave, or the failure that stands for a
fault which the step did not expect. `StepResult.Shows` says which of the three a result holds.

A result also carries the name and the position of its step and the number of the attempt, as they
were given. This holds of every attempt that leaves a result, whoever observes it.

## Main results

* `Step.perform_execute` — an attempt of a step of a known type leaves a result that shows what
  became of it
* `Step.output_eq_empty` — failed attempts have no output
* `Run.attempt_ok` — what is known of an attempt that has left a result
* `Run.attempt_unobserved` — an attempt that nobody observes always leaves one
-/

namespace StepFlow

open Act

/-- A result shows what became of the activity of its step: the output of one that succeeded, the
failure of one that failed, and for a fault the failure that stands for it. A failed attempt has no
output. -/
def StepResult.Shows (x : StepResult) : Except Fault Step.Outcome → Prop
  | .ok (.ok output) => x.error = none ∧ x.output = output
  | .ok (.error e) => x.error = some e ∧ x.output = ""
  | .error e => x.error = some (Step.unexpected e) ∧ x.output = ""

/-- A result that shows a failure has no output. -/
theorem StepResult.Shows.output_eq_empty {x : StepResult} {outcome : Except Fault Step.Outcome}
    (h : x.Shows outcome) (hfail : x.success = false) : x.output = "" := by
  rcases outcome with e | e | output
  · exact h.2
  · exact h.2
  · rw [StepResult.success, h.1] at hfail
    cases hfail

/-! ### Steps -/

namespace Step

variable {s : Step} {type : StepType} {settings : Settings} {scope : Scope} {index number : Nat}
  {out : Surroundings} {w w' : World} {x : StepResult}

theorem requireType_eq (h : s.type? = some type) : s.requireType = .ok type := by
  simp only [requireType, h]
  rfl

theorem type?_of_requireType (h : s.requireType = .ok type) : s.type? = some type := by
  unfold requireType at h
  split at h
  · rename_i t ht
    cases h
    exact ht
  · split at h
    · cases htext : s.type.text <;> rw [htext] at h <;> cases h
    · cases h

/-- A known type has a text. -/
theorem exists_typeText (h : s.type? = some type) : ∃ text, s.type.text = .ok text := by
  unfold type? at h
  split at h
  · rename_i t ht
    exact ⟨t, by rw [ht]; rfl⟩
  · cases h

/-- **An attempt leaves a result.** It shows what the activity of the step came to in the world in
which the clock has been read for the start; after that the clock is read for the end, and nothing
else happens but a line in the log. -/
theorem perform_execute (h : s.type? = some type) (settings : Settings) (scope : Scope)
    (index number : Nat) (out : Surroundings) (w : World) :
    ∃ x w', (s.execute settings scope index number).perform out w = (.ok x, w') ∧
      x.name = s.name ∧ x.index = index ∧ x.attempt = number ∧
      x.Shows ((s.act settings scope type).perform out w.ticked).1 ∧
      ((s.act settings scope type).perform out w.ticked).2.ticked.Logged w' := by
  rcases ha : (s.act settings scope type).perform out w.ticked with ⟨outcome, w₁⟩
  simp only [execute, perform_bind, perform_ofExcept, requireType_eq h, perform_now,
    perform_attempt, ha]
  rcases outcome with e | e | output
  · exact ⟨_, _, rfl, rfl, rfl, rfl, ⟨rfl, rfl⟩, _, rfl⟩
  · exact ⟨_, _, rfl, rfl, rfl, rfl, ⟨rfl, rfl⟩, _, rfl⟩
  · exact ⟨_, _, rfl, rfl, rfl, rfl, ⟨rfl, rfl⟩, .refl _⟩

/-- An attempt that has left a result was one of a step of a known type. -/
theorem exists_type_of_execute_ok
    (h : (s.execute settings scope index number).perform out w = (.ok x, w')) :
    ∃ type, s.type? = some type := by
  obtain ⟨type, w₁, htype, -⟩ := perform_bind_ok_iff.mp h
  rw [perform_ofExcept, Prod.mk.injEq] at htype
  exact ⟨type, type?_of_requireType htype.1⟩

/-- **A failed attempt has no output**, whatever has made it fail. -/
theorem output_eq_empty
    (h : (s.execute settings scope index number).perform out w = (.ok x, w'))
    (hfail : x.success = false) : x.output = "" := by
  obtain ⟨type, htype⟩ := exists_type_of_execute_ok h
  obtain ⟨y, w₁, hy, -, -, -, hshows, -⟩ :=
    perform_execute htype settings scope index number out w
  cases h.symm.trans hy
  exact hshows.output_eq_empty hfail

end Step

/-! ### Attempts of a run -/

namespace Run

variable {r : Run} {results : List StepResult} {index number : Nat} {s : Step} {type : StepType}
  {out : Surroundings} {w w' : World} {x : StepResult}

/-- What is known of an attempt that has left a result: the step was executed in some world, and the
result is the one that was left there. -/
theorem attempt_ok (h : (r.attempt results index s number).perform out w = (.ok x, w')) :
    ∃ w₁ w₂,
      (s.execute r.settings (r.scope results) index number).perform out w₁ = (.ok x, w₂) := by
  obtain ⟨_, w₁, -, h⟩ := perform_bind_ok_iff.mp h
  obtain ⟨_, w₂, -, h⟩ := perform_bind_ok_iff.mp h
  obtain ⟨_, w₃, -, h⟩ := perform_bind_ok_iff.mp h
  obtain ⟨y, w₄, hy, h⟩ := perform_bind_ok_iff.mp h
  obtain ⟨_, w₅, -, h⟩ := perform_bind_ok_iff.mp h
  suffices x = y from ⟨w₃, w₄, this ▸ hy⟩
  split at h
  · obtain ⟨_, w₆, -, h⟩ := perform_bind_ok_iff.mp h
    cases h
    rfl
  · cases h
    rfl

/-- A result carries the name and the position of its step and the number of the attempt. -/
theorem labels_of_attempt_ok
    (h : (r.attempt results index s number).perform out w = (.ok x, w')) :
    x.name = s.name ∧ x.index = index ∧ x.attempt = number := by
  obtain ⟨w₁, w₂, hx⟩ := attempt_ok h
  obtain ⟨type, htype⟩ := Step.exists_type_of_execute_ok hx
  obtain ⟨y, w₃, hy, hname, hindex, hnumber, -⟩ :=
    Step.perform_execute htype r.settings (r.scope results) index number out w₁
  rw [hx] at hy
  cases hy
  exact ⟨hname, hindex, hnumber⟩

/-- **An attempt that nobody observes leaves a result.** The result shows what the activity of the
step came to, and from the world that the activity leaves nothing happens but another reading of the
clock and lines in the log. -/
theorem attempt_unobserved (hr : r.hooks = {}) (h : s.type? = some type) (results : List StepResult)
    (index number : Nat) (out : Surroundings) (w : World) :
    ∃ w₁ x w', w.Logged w₁ ∧ (r.attempt results index s number).perform out w = (.ok x, w') ∧
      x.Shows ((s.act r.settings (r.scope results) type).perform out w₁.ticked).1 ∧
      ((s.act r.settings (r.scope results) type).perform out w₁.ticked).2.ticked.Logged w' := by
  obtain ⟨text, htext⟩ := Step.exists_typeText h
  obtain ⟨w₁, hlog, hlogged⟩ := logged_log .info
    (s!"Step {index + 1}/{r.workflow.steps.length}: {s.name} ({text})"
      ++ (if 1 < number then s!" attempt {number}" else "")) out w
  obtain ⟨x, w', hx, -, -, -, hshows, hlogged'⟩ :=
    Step.perform_execute h r.settings (r.scope results) index number out w₁
  refine ⟨w₁, x, w', hlogged, ?_, hshows, hlogged'⟩
  simp only [attempt, htext, hr, perform_bind, perform_ofExcept, info, hlog, notify,
    Option.map_none, perform_pure, hx]
  cases x.error <;> rfl

end Run

end StepFlow
