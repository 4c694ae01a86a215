import Mathlib.Data.List.Forall2

/-!
# Outcomes one after the other

A part that may fail has an outcome, and the outcome of a sequence is that of the first part that
fails, or of the last one. So what is known of the parts is known of the sequence: how it fails, that
it does not, and what has been passed on between the parts.

## Main definitions

* `FailsOnly` — what fails does so for certain causes only
* `FailsJustIf` — what fails does so for one cause, and a condition tells when

## Main results

* `exists_of_bind_ok`, `exists_bind_ok` — a sequence comes to a value
* `exists_mapM_ok`, `forall₂_of_mapM_ok` — so do all parts of a list
-/

namespace StepFlow

/-! ### Why there is no value -/

/-- What fails here fails for certain causes only. -/
def FailsOnly {ε α : Type} (P : ε → Prop) (r : Except ε α) : Prop := ∀ e, r = .error e → P e

namespace FailsOnly

variable {ε ε' α β : Type} {P : ε → Prop} {Q : ε' → Prop}

theorem ok (v : α) : FailsOnly P (.ok v) := nofun

theorem error {e : ε} (h : P e) : FailsOnly P (.error e : Except ε α) := by
  rintro _ ⟨⟩
  exact h

theorem bind {a : Except ε α} {f : α → Except ε β} (ha : FailsOnly P a)
    (hf : ∀ v, FailsOnly P (f v)) : FailsOnly P (a >>= f) := by
  cases a with
  | error e => exact error (ha e rfl)
  | ok v => exact hf v

theorem mono {a : Except ε α} {R : ε → Prop} (ha : FailsOnly P a) (h : ∀ e, P e → R e) :
    FailsOnly R a := fun e he => h e (ha e he)

theorem mapError {a : Except ε α} {f : ε → ε'} (ha : FailsOnly P a) (hf : ∀ e, P e → Q (f e)) :
    FailsOnly Q (a.mapError f) := by
  cases a with
  | error e => exact error (hf e (ha e rfl))
  | ok v => exact ok v

theorem mapM {F : α → Except ε β} (h : ∀ a, FailsOnly P (F a)) (l : List α) :
    FailsOnly P (l.mapM F) := by
  induction l with
  | nil => exact ok []
  | cons a l ih =>
    rw [List.mapM_cons]
    exact (h a).bind fun b => ih.bind fun bs => ok (b :: bs)

end FailsOnly

/-- The outcome is the one failure if the condition holds, and otherwise a value of the kind. -/
def FailsJustIf {ε α : Type} (bad : Prop) (e : ε) (good : α → Prop) (r : Except ε α) : Prop :=
  (¬bad ∧ ∃ v, r = .ok v ∧ good v) ∨ (bad ∧ r = .error e)

namespace FailsJustIf

variable {ε α β γ : Type} {bad bad' : Prop} {e : ε} {good : α → Prop} {good' : β → Prop}
  {a : Except ε α}

theorem ok {v : α} (h : good v) : FailsJustIf False e good (.ok v) :=
  .inl ⟨not_false, v, rfl, h⟩

theorem congr (ha : FailsJustIf bad e good a) (h : bad ↔ bad') : FailsJustIf bad' e good a :=
  propext h ▸ ha

theorem bind {f : α → Except ε β} (ha : FailsJustIf bad e good a)
    (hf : ∀ v, good v → FailsJustIf bad' e good' (f v)) :
    FailsJustIf (bad ∨ bad') e good' (a >>= f) := by
  rcases ha with ⟨hbad, v, rfl, hv⟩ | ⟨hbad, rfl⟩
  · exact (hf v hv).congr (or_iff_right hbad).symm
  · exact .inr ⟨.inl hbad, rfl⟩

theorem map {f : α → β} (ha : FailsJustIf bad e good a) (hf : ∀ v, good v → good' (f v)) :
    FailsJustIf bad e good' (a >>= fun v => .ok (f v)) :=
  (ha.bind fun v hv => ok (hf v hv)).congr (or_iff_left not_false)

/-- One part that fails is enough. What the parts are known by need not be what they read. -/
theorem mapM {F : α → Except ε β} {bad : γ → Prop} {Q : γ → β → Prop} {l : List α} {cs : List γ}
    (h : List.Forall₂ (fun a c => FailsJustIf (bad c) e (Q c) (F a)) l cs) :
    FailsJustIf (∃ c ∈ cs, bad c) e (List.Forall₂ Q cs) (l.mapM F) := by
  induction h with
  | nil => exact .inl ⟨by simp, [], rfl, .nil⟩
  | cons ha _ ih =>
    rw [List.mapM_cons]
    refine (ha.bind fun b hb => ih.map fun bs hbs => ?_).congr (List.exists_mem_cons_iff _ _ _).symm
    exact List.Forall₂.cons hb hbs

end FailsJustIf

/-! ### Values that are passed on -/

section

variable {ε ε' α β γ : Type} {F : α → Except ε β} {Q : α → β → Prop} {l : List α}

/-- A sequence that comes to a value has gone through its first part. -/
theorem exists_of_bind_ok {a : Except ε α} {b : β} (h : a >>= F = .ok b) :
    ∃ v, a = .ok v ∧ F v = .ok b := by
  cases a with
  | error e => cases h
  | ok v => exact ⟨v, rfl, h⟩

theorem exists_bind_ok {a : Except ε α} (ha : ∃ v, a = .ok v) (hF : ∀ v, ∃ b, F v = .ok b) :
    ∃ b, a >>= F = .ok b := by
  obtain ⟨v, rfl⟩ := ha
  exact hF v

theorem ok_of_mapError_ok {a : Except ε α} {f : ε → ε'} {v : α} (h : a.mapError f = .ok v) :
    a = .ok v := by
  cases a with
  | error e => cases h
  | ok u => exact congrArg Except.ok (Except.ok.inj h)

theorem exists_mapM_ok (h : ∀ a ∈ l, ∃ b, F a = .ok b ∧ Q a b) :
    ∃ bs, l.mapM F = .ok bs ∧ List.Forall₂ Q l bs := by
  induction l with
  | nil => exact ⟨[], rfl, .nil⟩
  | cons a l ih =>
    obtain ⟨⟨b, hb, hab⟩, h⟩ := List.forall_mem_cons.mp h
    obtain ⟨bs, hbs, hrest⟩ := ih h
    refine ⟨b :: bs, ?_, .cons hab hrest⟩
    rw [List.mapM_cons, hb, hbs]
    rfl

theorem forall₂_of_mapM_ok {bs : List β} (h : l.mapM F = .ok bs) :
    List.Forall₂ (fun a b => F a = .ok b) l bs := by
  induction l generalizing bs with
  | nil =>
    cases h
    exact .nil
  | cons a l ih =>
    rw [List.mapM_cons] at h
    obtain ⟨b, hb, h⟩ := exists_of_bind_ok h
    obtain ⟨bs, hbs, h⟩ := exists_of_bind_ok h
    cases h
    exact .cons hb (ih hbs)

end

end StepFlow
