import StepFlow.Proofs.Value.Text
import StepFlow.Workflow.Check

/-!
# Accepted workflows

A workflow is accepted when checking it finds no error. What a run relies on is read off the errors
that were not found: every step has a type, its failure policy can be read, and the target of a
retry is the position of a step. A step of unknown type is not examined further when it is checked,
but it has an error then, so that nothing is left unexamined in a workflow without errors.

## Main definitions

* `Step.Accepted` — what is known of a step without errors

## Main results

* `Workflow.check_eq_ok_iff` — a workflow is accepted when it has no errors
* `Workflow.accepted_of_errors` — every step of an accepted workflow is `Step.Accepted`
-/

namespace StepFlow

/-! ### Retry targets -/

namespace RetryTarget

variable {names : List String} {i : Nat}

/-- A number resolves to itself, if it is a position. -/
theorem resolve_index_eq_ok_iff {n : Int} :
    (index n).resolve names = .ok i ↔ n = i ∧ i < names.length := by
  simp only [resolve, Bool.and_eq_true, decide_eq_true_eq]
  split
  · rename_i hn
    constructor
    · rintro ⟨⟩
      omega
    · rintro ⟨rfl, -⟩
      rfl
  · rename_i hn
    constructor
    · intro h
      cases hn : integerText n <;> rw [hn] at h <;> cases h
    · omega

/-- A name resolves to the first position where it stands. -/
theorem resolve_name_eq_ok_iff {s : String} :
    (name s).resolve names = .ok i ↔ names.findIdx? (· == s) = some i := by
  simp only [resolve]
  cases names.findIdx? (· == s) with
  | none => exact ⟨nofun, nofun⟩
  | some j =>
    constructor
    · rintro ⟨⟩
      rfl
    · rintro ⟨⟩
      rfl

/-- A resolved target is the position of one of the names. -/
theorem resolve_lt {target : RetryTarget} (h : target.resolve names = .ok i) :
    i < names.length := by
  cases target with
  | index n => exact (resolve_index_eq_ok_iff.mp h).2
  | name s =>
    exact (List.findIdx?_eq_some_iff_findIdx_eq.mp (resolve_name_eq_ok_iff.mp h)).1

end RetryTarget

/-! ### Steps without errors -/

/-- What is known of the step at a position, among steps of the given names, when it has no errors.
-/
structure Step.Accepted (s : Step) (index : Nat) (names : List String) : Prop where
  /-- Its type is one of the step types. -/
  type : ∃ type, s.type? = some type
  /-- Its failure policy can be read. -/
  policy : ∃ action, Policy.read (some (index : Int)) s.onFailure = .ok action
  /-- A step that it retries is one of the steps. -/
  target : ∀ target maxRetries delayMs,
    Policy.read (some (index : Int)) s.onFailure = .ok (some (.retry target maxRetries delayMs)) →
      ∃ i, target.resolve names = .ok i ∧ i < names.length

namespace Step

variable {s : Step} {index : Nat} {names : List String}

/-- Checking the failure policy of such a step finds nothing. -/
theorem Accepted.policyErrors_eq_nil (h : s.Accepted index names) :
    s.policyErrors index names = [] := by
  obtain ⟨action, hread⟩ := h.policy
  rcases action with _ | _ | _ | ⟨target, maxRetries, delayMs⟩
  · simp only [policyErrors, hread]
  · simp only [policyErrors, hread]
  · simp only [policyErrors, hread]
  · obtain ⟨i, hres, -⟩ := h.target _ _ _ hread
    simp only [policyErrors, hread, hres]

theorem exists_policy_of_policyErrors (h : s.policyErrors index names = []) :
    ∃ action, Policy.read (some (index : Int)) s.onFailure = .ok action := by
  unfold policyErrors at h
  split at h
  · cases h
  · exact ⟨_, ‹_›⟩
  · exact ⟨_, ‹_›⟩

theorem exists_target_of_policyErrors (h : s.policyErrors index names = []) {target : RetryTarget}
    {maxRetries delayMs : Int}
    (hp : Policy.read (some (index : Int)) s.onFailure =
      .ok (some (.retry target maxRetries delayMs))) :
    ∃ i, target.resolve names = .ok i ∧ i < names.length := by
  simp only [policyErrors, hp] at h
  split at h
  · cases h
  · rename_i i hi
    exact ⟨i, hi, RetryTarget.resolve_lt hi⟩

/-- A list that nothing is made of is empty. -/
theorem mapM_eq_ok_nil_iff {α β : Type} {f : α → Except Fault β} {xs : List α} :
    xs.mapM f = .ok [] ↔ xs = [] := by
  cases xs with
  | nil => exact iff_of_true rfl rfl
  | cons x xs =>
    rw [List.mapM_cons]
    refine iff_of_false (fun h => ?_) (List.cons_ne_nil _ _)
    cases hx : f x with
    | error e =>
      rw [hx] at h
      cases h
    | ok y =>
      cases hxs : xs.mapM f <;> rw [hx, hxs] at h <;> cases h

/-- A step without errors has a type and no errors of its policy: the check that stops at an unknown
type has an error to show for it. -/
theorem accepted_of_errors (h : s.errors index names = .ok []) : s.Accepted index names := by
  unfold errors at h
  cases ht : s.type? with
  | none =>
    rw [ht] at h
    cases hf : s.typeText with
    | error e => rw [hf] at h; cases h
    | ok found =>
      rw [hf] at h
      cases (List.append_eq_nil_iff.mp (Except.ok.inj h)).2
  | some type =>
    rw [ht] at h
    dsimp only at h
    obtain ⟨shown, hshown, h⟩ := exists_of_bind_ok h
    obtain ⟨-, rfl⟩ := List.append_eq_nil_iff.mp (Except.ok.inj h)
    have hpolicy : s.policyErrors index names = [] := mapM_eq_ok_nil_iff.mp hshown
    exact ⟨⟨type, ht⟩, exists_policy_of_policyErrors hpolicy,
      fun _ _ _ hp => exists_target_of_policyErrors hpolicy hp⟩

theorem policyErrors_eq_nil_iff : s.policyErrors index names = [] ↔
    ∃ action, Policy.read (some (index : Int)) s.onFailure = .ok action ∧
      ∀ target maxRetries delayMs, action = some (.retry target maxRetries delayMs) →
        ∃ i, target.resolve names = .ok i := by
  constructor
  · intro h
    obtain ⟨action, hread⟩ := exists_policy_of_policyErrors h
    refine ⟨action, hread, fun target maxRetries delayMs haction => ?_⟩
    rw [haction] at hread
    obtain ⟨i, hi, -⟩ := exists_target_of_policyErrors h hread
    exact ⟨i, hi⟩
  · rintro ⟨action, hread, htarget⟩
    rcases action with _ | _ | _ | ⟨target, maxRetries, delayMs⟩
    · simp only [policyErrors, hread]
    · simp only [policyErrors, hread]
    · simp only [policyErrors, hread]
    · obtain ⟨i, hi⟩ := htarget _ _ _ rfl
      simp only [policyErrors, hread, hi]

/-- What checking a step looks at. -/
theorem errors_eq_nil_iff : s.errors index names = .ok [] ↔
    s.name ≠ "" ∧ (∃ type, s.type? = some type ∧ s.misplaced type = []) ∧
      (∀ a, s.agent = some a → ∃ type, AgentType.ofName? a.type = some type) ∧
      s.policyErrors index names = [] := by
  unfold errors
  dsimp only
  cases ht : s.type? with
  | none =>
    cases hf : s.typeText with
    | error e => simp [Bind.bind, Except.bind]
    | ok found => simp [Bind.bind, Except.bind, Pure.pure, Except.pure]
  | some type =>
    dsimp only
    constructor
    · intro h
      obtain ⟨shown, hshown, h⟩ := exists_of_bind_ok h
      obtain ⟨hrest, rfl⟩ := List.append_eq_nil_iff.mp (Except.ok.inj h)
      obtain ⟨hrest, hagent⟩ := List.append_eq_nil_iff.mp hrest
      obtain ⟨hname, hfields⟩ := List.append_eq_nil_iff.mp hrest
      refine ⟨by simpa using hname, ⟨type, rfl, by simpa using hfields⟩, ?_,
        mapM_eq_ok_nil_iff.mp hshown⟩
      intro a ha
      simpa [ha, Option.isSome_iff_exists] using hagent
    · rintro ⟨hname, ⟨type', htype, hfields⟩, hagent, hpolicy⟩
      cases htype
      rw [hpolicy, hfields, if_neg hname]
      cases ha : s.agent with
      | none => rfl
      | some a =>
        obtain ⟨known, hknown⟩ := hagent a ha
        simp only [hknown, Option.isSome_some, if_true]
        rfl

end Step

/-! ### Workflows without errors -/

/-- Steps from a position on have no errors when each of them has none. -/
theorem stepErrors_eq_nil {names : List String} {steps : List Step} {index : Nat}
    (h : stepErrors names index steps = .ok []) {i : Nat} {s : Step} (hs : steps[i]? = some s) :
    s.errors (index + i) names = .ok [] := by
  induction steps generalizing index i with
  | nil => simp at hs
  | cons first rest ih =>
    unfold stepErrors at h
    cases hfirst : first.errors index names with
    | error e => rw [hfirst] at h; cases h
    | ok found =>
      cases hrest : stepErrors names (index + 1) rest with
      | error e => rw [hfirst, hrest] at h; cases h
      | ok others =>
        rw [hfirst, hrest] at h
        obtain ⟨rfl, rfl⟩ := List.append_eq_nil_iff.mp (Except.ok.inj h)
        cases i with
        | zero => cases hs; exact hfirst
        | succ i =>
          rw [Nat.add_succ, ← Nat.succ_add]
          exact ih hrest hs

/-- If each of them has none, there is none. -/
theorem stepErrors_of_errors {names : List String} {steps : List Step} {index : Nat}
    (h : ∀ (i : Nat) (s : Step), steps[i]? = some s → s.errors (index + i) names = .ok []) :
    stepErrors names index steps = .ok [] := by
  induction steps generalizing index with
  | nil => rfl
  | cons first rest ih =>
    have hfirst : first.errors index names = .ok [] := h 0 first rfl
    have hrest : stepErrors names (index + 1) rest = .ok [] := by
      refine ih fun i s hs => ?_
      rw [Nat.succ_add, ← Nat.add_succ]
      exact h (i + 1) s hs
    rw [stepErrors, hfirst, hrest]
    rfl

namespace Workflow

variable {w : Workflow}

/-- A workflow is accepted when it has no errors. -/
theorem check_eq_ok_iff : w.check = .ok () ↔ w.errors = .ok [] := by
  unfold check
  constructor
  · intro h
    obtain ⟨errors, herrors, h⟩ := exists_of_bind_ok h
    split at h
    · exact herrors
    · cases h
  · intro h
    rw [h]
    rfl

/-- An accepted workflow has a step. -/
theorem steps_ne_nil_of_errors (h : w.errors = .ok []) : w.steps ≠ [] := by
  intro hs
  simp only [errors, hs, List.isEmpty_nil, if_true] at h
  cases h

/-- **Every step of an accepted workflow is in order.** -/
theorem accepted_of_errors (h : w.errors = .ok []) {i : Nat} {s : Step}
    (hs : w.steps[i]? = some s) : s.Accepted i w.stepNames := by
  unfold errors at h
  split at h
  · cases h
  · have := stepErrors_eq_nil h hs
    rw [Nat.zero_add] at this
    exact s.accepted_of_errors this

/-- What checking a workflow looks at. -/
theorem errors_eq_nil_iff : w.errors = .ok [] ↔
    w.steps ≠ [] ∧ ∀ (i : Nat) (s : Step), w.steps[i]? = some s →
      s.errors i w.stepNames = .ok [] := by
  constructor
  · intro h
    have hne := steps_ne_nil_of_errors h
    refine ⟨hne, fun i s hs => ?_⟩
    rw [errors, if_neg (by simp [hne])] at h
    have := stepErrors_eq_nil h hs
    rwa [Nat.zero_add] at this
  · rintro ⟨hne, hsteps⟩
    rw [errors, if_neg (by simp [hne])]
    refine stepErrors_of_errors fun i s hs => ?_
    rw [Nat.zero_add]
    exact hsteps i s hs

@[simp] theorem length_stepNames (w : Workflow) : w.stepNames.length = w.steps.length :=
  List.length_map _

end Workflow

end StepFlow
