import StepFlow.World
import Mathlib.Order.Defs.Unbundled

/-!
# Reasoning about activities

An activity is looked at through `Act.perform`: from surroundings and a world it gives an outcome
and the world it leaves. The lemmas below say what the parts that activities are put together from
do, so that no proof has to open the layers of `Act`.

## Two ways to use them

A proof about what an activity gives follows it part by part: `Act.perform_bind_ok_iff` and
`Act.perform_bind_error_iff` split a performance at its first part, and the `perform` lemmas of the
parts do the rest.

A proof about what an activity leaves alone does not look at outcomes at all. `Act.Respects R` says
that the worlds before and after are related by `R`, whatever becomes of the activity; for a
preorder `R` it is enough to show this of every part.

## Main definitions

* `World.Logged` — nothing has happened but lines written to the log
* `Act.Respects` — the worlds before and after an activity are related

## Main results

* `Act.perform_bind_ok_iff`, `Act.perform_bind_error_iff`
* `Act.Respects.bind`, `Act.Respects.forM`, `Act.Respects.mapM`
-/

namespace StepFlow

/-- Surroundings in which nothing answers. -/
def Surroundings.silent : Surroundings where
  env := []
  workspace := default
  shell _ _ _ := (.notStarted "", [])
  program _ _ := .notFound
  chat _ _ := .noChoices
  clock _ := default

/-! ### Log lines and the clock -/

/-- The world after one more reading of the clock. -/
def World.ticked (w : World) : World := { w with readings := w.readings + 1 }

/-- From `w` to `w'` nothing has happened but lines written to the log. -/
def World.Logged (w w' : World) : Prop :=
  ∃ lines, w' = { w with logs := w.logs ++ lines }

namespace World.Logged

variable {w₁ w₂ w₃ : World}

@[refl] theorem refl (w : World) : w.Logged w := ⟨[], by simp⟩

@[trans] theorem trans (h : w₁.Logged w₂) (h' : w₂.Logged w₃) : w₁.Logged w₃ := by
  obtain ⟨lines, rfl⟩ := h
  obtain ⟨more, rfl⟩ := h'
  exact ⟨lines ++ more, by simp⟩

end World.Logged

namespace Act

variable {α β : Type} {out : Surroundings} {w w' : World}

/-! ### What the parts of an activity give -/

theorem mapError_ok {ε ε' : Type} (f : ε → ε') (v : α) :
    (Except.ok v : Except ε α).mapError f = .ok v := rfl

theorem mapError_error {ε ε' : Type} (f : ε → ε') (e : ε) :
    (Except.error e : Except ε α).mapError f = .error (f e) := rfl

@[simp] theorem perform_pure (v : α) (out : Surroundings) (w : World) :
    (pure v : Act α).perform out w = (.ok v, w) := rfl

@[simp] theorem perform_throw (e : Fault) (out : Surroundings) (w : World) :
    (throw e : Act α).perform out w = (.error e, w) := rfl

@[simp] theorem perform_attempt (a : Act α) (out : Surroundings) (w : World) :
    (attempt a).perform out w = (.ok (a.perform out w).1, (a.perform out w).2) := rfl

@[simp] theorem perform_ofExcept (r : Except Fault α) (out : Surroundings) (w : World) :
    (ofExcept r).perform out w = (r, w) := by
  cases r <;> rfl

@[simp] theorem perform_read (out : Surroundings) (w : World) :
    (read : Act Surroundings).perform out w = (.ok out, w) := rfl

@[simp] theorem perform_get (out : Surroundings) (w : World) :
    (get : Act World).perform out w = (.ok w, w) := rfl

@[simp] theorem perform_now (out : Surroundings) (w : World) :
    now.perform out w = (.ok (out.clock w.readings), w.ticked) := rfl

@[simp] theorem perform_log (severity : Severity) (message : String) (out : Surroundings)
    (w : World) :
    (log severity message).perform out w =
      (.ok (), { w with logs := w.logs ++ [⟨severity, message⟩] }) := rfl

@[simp] theorem perform_record (e : Event) (out : Surroundings) (w : World) :
    (record e).perform out w = (.ok (), { w with events := w.events ++ [e] }) := rfl

theorem perform_printLine (line : String) (out : Surroundings) (w : World) :
    (printLine line).perform out w = (.ok (), { w with printed := w.printed ++ [line] }) := rfl

theorem perform_chat (call : ChatCall) (out : Surroundings) (w : World) :
    (Act.chat call).perform out w =
      (.ok (out.chat w.events call), { w with events := w.events ++ [.chat call] }) := rfl

@[simp] theorem perform_change (c : Change) (out : Surroundings) (w : World) :
    (change c).perform out w =
      (.ok (), { w with files := w.files.apply c, changes := w.changes ++ [c] }) := rfl

theorem perform_bind (a : Act α) (f : α → Act β) (out : Surroundings) (w : World) :
    (a >>= f).perform out w = match a.perform out w with
      | (.ok v, w') => (f v).perform out w'
      | (.error e, w') => (.error e, w') := by
  simp only [perform, bind, ReaderT.bind, ExceptT.bind, ExceptT.mk, StateT.bind, ExceptT.bindCont]
  cases a out w with
  | mk r w' => cases r <;> rfl

theorem perform_bind_of_ok {a : Act α} {v : α} (h : a.perform out w = (.ok v, w'))
    (f : α → Act β) : (a >>= f).perform out w = (f v).perform out w' := by
  rw [perform_bind, h]

theorem perform_bind_of_error {a : Act α} {e : Fault} (h : a.perform out w = (.error e, w'))
    (f : α → Act β) : (a >>= f).perform out w = (.error e, w') := by
  rw [perform_bind, h]

theorem perform_setUpClient {key : String} (h : out.chatClient w.events key = none) :
    (setUpClient key).perform out w =
      (.ok (), { w with events := w.events ++ [.chatClient (some key)] }) := by
  simp only [setUpClient, perform_bind, perform_read, perform_get, h, perform_record]

theorem perform_setUpClient_of_refused {key reason : String}
    (h : out.chatClient w.events key = some reason) :
    (setUpClient key).perform out w = (.error (.foreign "RuntimeError" reason), w) := by
  simp only [setUpClient, perform_bind, perform_read, perform_get, h, perform_throw]

theorem perform_sleep {seconds : Double} (h : out.sleep w.readings seconds = none) :
    (sleep seconds).perform out w =
      (.ok (), { w with events := w.events ++ [.slept seconds] }) := by
  simp only [sleep, perform_bind, perform_read, perform_get, h, perform_record]

theorem perform_sleep_of_refused {seconds : Double} {fault : WaitFault}
    (h : out.sleep w.readings seconds = some fault) :
    (sleep seconds).perform out w = (.error (.wait fault), w) := by
  simp only [sleep, perform_bind, perform_read, perform_get, h, perform_throw]

/-- A sequence succeeds when both of its parts do. -/
theorem perform_bind_ok_iff {a : Act α} {f : α → Act β} {b : β} :
    (a >>= f).perform out w = (.ok b, w') ↔
      ∃ v w₁, a.perform out w = (.ok v, w₁) ∧ (f v).perform out w₁ = (.ok b, w') := by
  rw [perform_bind]
  rcases a.perform out w with ⟨_ | v, w₁⟩
  · simp
  · simp [and_assoc]

/-- A sequence fails when its first part does, or else its second. -/
theorem perform_bind_error_iff {a : Act α} {f : α → Act β} {e : Fault} :
    (a >>= f).perform out w = (.error e, w') ↔
      a.perform out w = (.error e, w') ∨
        ∃ v w₁, a.perform out w = (.ok v, w₁) ∧ (f v).perform out w₁ = (.error e, w') := by
  rw [perform_bind]
  rcases a.perform out w with ⟨_ | v, w₁⟩
  · simp
  · simp [and_assoc]

/-- What becomes of an activity is the outcome of an attempt at it. -/
theorem perform_attempt_ok_iff {a : Act α} {v : Except Fault α} :
    (attempt a).perform out w = (.ok v, w') ↔ a.perform out w = (v, w') := by
  rw [perform_attempt, Prod.mk.injEq, Except.ok.injEq]
  exact ⟨fun h => Prod.ext h.1 h.2, fun h => Prod.mk.inj h⟩

/-- An outcome that can be computed tells that an activity succeeds. -/
theorem exists_ok_of_isOk {a : Act α} (h : (a.perform out w).1.isOk = true) :
    ∃ v w', a.perform out w = (.ok v, w') := by
  rcases hrun : a.perform out w with ⟨e | v, w'⟩
  · rw [hrun] at h
    cases h
  · exact ⟨v, w', rfl⟩

/-- An outcome that can be computed tells the fault that an activity ends in. -/
theorem exists_error_of_map {a : Act α} {e : Fault}
    (h : ((a.perform out w).1.map fun _ => ()) = .error e) :
    ∃ w', a.perform out w = (.error e, w') := by
  rcases hrun : a.perform out w with ⟨e' | v, w'⟩
  · rw [hrun] at h
    cases h
    exact ⟨w', rfl⟩
  · rw [hrun] at h
    cases h

/-- The same where something about the outcome can be computed. -/
theorem exists_ok_of_map {a : Act α} {f : α → β} {b : β}
    (h : (a.perform out w).1.toOption.map f = some b) :
    ∃ v w', a.perform out w = (.ok v, w') ∧ f v = b := by
  rcases hrun : a.perform out w with ⟨e | v, w'⟩
  · rw [hrun] at h
    cases h
  · rw [hrun] at h
    exact ⟨v, w', rfl, Option.some.inj h⟩

/-- Writing a line to the log does nothing else. -/
theorem logged_log (severity : Severity) (message : String) (out : Surroundings) (w : World) :
    ∃ w', (log severity message).perform out w = (.ok (), w') ∧ w.Logged w' :=
  ⟨_, rfl, _, rfl⟩

/-- The same of what is logged one after the other. -/
theorem logged_forM {f : α → Act PUnit}
    (h : ∀ x out w, ∃ w', (f x).perform out w = (.ok (), w') ∧ w.Logged w') (xs : List α)
    (out : Surroundings) (w : World) :
    ∃ w', (xs.forM f).perform out w = (.ok (), w') ∧ w.Logged w' := by
  induction xs generalizing w with
  | nil => exact ⟨w, rfl, .refl w⟩
  | cons x xs ih =>
    obtain ⟨w₁, hfirst, hlogged⟩ := h x out w
    obtain ⟨w', hrest, hlogged'⟩ := ih w₁
    exact ⟨w', (perform_bind_of_ok hfirst _).trans hrest, hlogged.trans hlogged'⟩

/-! ### What an activity leaves alone -/

/-- The worlds before and after an activity are related, whatever becomes of it. -/
def Respects (R : World → World → Prop) (a : Act α) : Prop :=
  ∀ out w, R w (a.perform out w).2

namespace Respects

variable {R : World → World → Prop}

theorem of_perform {a : Act α} (h : Respects R a) {r : Except Fault α}
    (hp : a.perform out w = (r, w')) : R w w' := by
  simpa [hp] using h out w

theorem ite {c : Prop} [Decidable c] {a b : Act α} (ha : c → Respects R a)
    (hb : ¬c → Respects R b) : Respects R (if c then a else b) := by
  split
  · exact ha ‹c›
  · exact hb ‹¬c›

theorem attempt {a : Act α} (h : Respects R a) : Respects R (Act.attempt a) := h

variable [IsPreorder World R]

theorem pure (v : α) : Respects R (Pure.pure v : Act α) := fun _ w => refl_of R w

theorem throw (e : Fault) : Respects R (throw e : Act α) := fun _ w => refl_of R w

theorem ofExcept (r : Except Fault α) : Respects R (Act.ofExcept r) := by
  cases r with
  | ok v => exact pure v
  | error e => exact throw e

theorem read : Respects R (read : Act Surroundings) := fun _ w => refl_of R w

theorem get : Respects R (get : Act World) := fun _ w => refl_of R w

theorem bind {a : Act α} {f : α → Act β} (ha : Respects R a) (hf : ∀ v, Respects R (f v)) :
    Respects R (a >>= f) := by
  intro out w
  rw [perform_bind]
  rcases h : a.perform out w with ⟨_ | v, w'⟩
  · exact ha.of_perform h
  · exact trans_of R (ha.of_perform h) (hf v out w')

theorem forM {xs : List α} {f : α → Act PUnit} (hf : ∀ x, Respects R (f x)) :
    Respects R (xs.forM f) := by
  induction xs with
  | nil => exact pure _
  | cons x xs ih => exact bind (hf x) fun _ => ih

theorem mapM {xs : List α} {f : α → Act β} (hf : ∀ x, Respects R (f x)) :
    Respects R (xs.mapM f) := by
  induction xs with
  | nil => exact pure _
  | cons x xs ih =>
    rw [List.mapM_cons]
    exact bind (hf x) fun _ => bind ih fun _ => pure _

end Respects

/-- An activity that only reads leaves the world as it is. -/
theorem perform_of_reads {a : Act α} (h : Respects Eq a) (out : Surroundings) (w : World) :
    a.perform out w = ((a.perform out w).1, w) :=
  Prod.ext rfl (h out w).symm

end Act

end StepFlow
