import StepFlow.Proofs.Fields
import StepFlow.Proofs.Files.Access
import StepFlow.Proofs.Workflow.Accepted
import StepFlow.Workflow.Load

/-!
# Loaded workflows are accepted

Reading a document notes errors and goes on, and an error that has been noted is never taken back,
nor does it matter for what is read after it: `Reading.Grows` holds of every part of the reader. A
document is refused when an error has been noted at its end. So no error has been noted at any time
when it is not, and in particular none has been found when its workflows were checked.

## Main definitions

* `Reading.Grows` — reading only adds to the errors
* `Reading.Clean` — reading comes to a value and notes no error

## Main results

* `Document.readEntries_grows` — all of a document is read this way
* `Document.errors_eq_nil_of_workflows` — the workflows of a document have no errors
* `Workflow.errors_eq_nil_of_load` — nor have workflows that have been loaded from a file
-/

namespace StepFlow

/-! ### Errors are not taken back -/

namespace Reading

variable {α β : Type}

theorem run_bind (a : Reading α) (f : α → Reading β) (noted : List DefinitionError) :
    (a >>= f).run noted = match a.run noted with
      | (.ok v, noted') => (f v).run noted'
      | (.error e, noted') => (.error e, noted') := by
  simp only [ExceptT.run, bind, ExceptT.bind, ExceptT.mk, StateT.bind, ExceptT.bindCont]
  cases a noted with
  | mk r noted' => cases r <;> rfl

/-- Reading adds to the errors that have been noted before. What it adds and what it comes to is the
same whatever these are. -/
def Grows (a : Reading α) : Prop := ∀ noted, a.run noted = ((a.run []).1, noted ++ (a.run []).2)

namespace Grows

theorem pure (v : α) : Grows (Pure.pure v) := fun noted =>
  congrArg (Prod.mk (Except.ok (ε := Fault) v)) (List.append_nil noted).symm

theorem throw (e : Fault) : Grows (throw e : Reading α) := fun noted =>
  congrArg (Prod.mk (Except.error (α := α) e)) (List.append_nil noted).symm

theorem modify (more : List DefinitionError) :
    Grows (modify (· ++ more) : Reading Unit) := fun _ => rfl

theorem bind {a : Reading α} {f : α → Reading β} (ha : Grows a) (hf : ∀ v, Grows (f v)) :
    Grows (a >>= f) := by
  intro noted
  rw [run_bind, run_bind, ha noted]
  rcases a.run [] with ⟨e | v, more⟩
  · rfl
  · dsimp only
    rw [hf v (noted ++ more), hf v more, List.append_assoc]

theorem map {a : Reading α} (ha : Grows a) (f : α → β) : Grows (f <$> a) := by
  rw [map_eq_pure_bind]
  exact ha.bind fun _ => pure _

theorem forM {xs : List α} {f : α → Reading PUnit} (hf : ∀ x, Grows (f x)) :
    Grows (xs.forM f) := by
  induction xs with
  | nil => exact pure _
  | cons x xs ih => exact (hf x).bind fun _ => ih

theorem forIn {xs : List α} {init : β} {f : α → β → Reading (ForInStep β)}
    (hf : ∀ x v, Grows (f x v)) : Grows (ForIn.forIn xs init f) := by
  induction xs generalizing init with
  | nil => exact pure _
  | cons x xs ih =>
    rw [List.forIn_cons]
    refine (hf x init).bind fun step => ?_
    cases step with
    | done v => exact pure _
    | yield v => exact ih

end Grows

/-- Reading comes to a value and notes no error. -/
def Clean (a : Reading α) (v : α) : Prop := a.run [] = (.ok v, [])

/-- A sequence notes no error when neither of its parts does. -/
theorem Clean.of_bind {a : Reading α} {f : α → Reading β} {v : β} (h : Clean (a >>= f) v)
    (hf : ∀ u, Grows (f u)) : ∃ u, Clean a u ∧ Clean (f u) v := by
  rw [Clean, run_bind] at h
  rcases ha : a.run [] with ⟨e | u, noted⟩
  · rw [ha] at h
    cases h
  · rw [ha] at h
    have hrest : (f u).run noted = (.ok v, []) := h
    have hnoted := (congrArg Prod.snd (hf u noted)).symm.trans (congrArg Prod.snd hrest)
    obtain rfl := (List.append_eq_nil_iff.mp hnoted).1
    exact ⟨u, ha, hrest⟩

end Reading

/-! ### The parts of a document -/

namespace Document

open Reading (Grows Clean)

theorem note_grows (message path : String) : Grows (note message path) := .modify _

theorem require_grows (condition : Bool) (message path : String) :
    Grows (require condition message path) := by
  unfold require
  split
  · exact .pure _
  · exact note_grows _ _

theorem textOf_grows (v : Value) : Grows (textOf v) := by
  unfold textOf
  split
  · exact .pure _
  · exact .throw _

theorem noteUnknown_grows (known : List String) (what path : String)
    (fields : List (Value × Value)) : Grows (noteUnknown known what path fields) := by
  refine .forM fun f => ?_
  split
  · exact require_grows _ _ _
  · exact .bind (textOf_grows _) fun _ => note_grows _ _

theorem readTemperature_grows (v : Value) (path label : String) :
    Grows (readTemperature v path label) := by
  unfold readTemperature
  split
  · exact .bind (require_grows _ _ _) fun _ => .pure _
  · split
    · exact .pure _
    · exact .bind (note_grows _ _) fun _ => .pure _

theorem readAgent_grows (path label : String) (v : Value) : Grows (readAgent path label v) := by
  unfold readAgent
  split
  · exact .pure _
  · refine .bind (noteUnknown_grows _ _ _ _) fun _ => .bind (require_grows _ _ _) fun _ => ?_
    refine .bind (readTemperature_grows _ _ _) fun temperature => ?_
    -- the two choices before the agent is made come as functions of what is to follow them
    dsimp only
    cases toDouble temperature with
    | error e =>
      split
      · refine .bind (textOf_grows _) fun type => ?_
        split
        · exact .bind (.pure _) fun model => .throw _
        · exact .bind (.map (textOf_grows _) _) fun model => .throw _
      · refine .bind (.pure _) fun type => ?_
        split
        · exact .bind (.pure _) fun model => .throw _
        · exact .bind (.map (textOf_grows _) _) fun model => .throw _
    | ok temperature =>
      split
      · refine .bind (textOf_grows _) fun type => ?_
        split
        · exact .bind (.pure _) fun model => .pure _
        · exact .bind (.map (textOf_grows _) _) fun model => .pure _
      · refine .bind (.pure _) fun type => ?_
        split
        · exact .bind (.pure _) fun model => .pure _
        · exact .bind (.map (textOf_grows _) _) fun model => .pure _
  · exact .bind (note_grows _ _) fun _ => .pure _

theorem readStrings_grows (field path label : String) (fields : List (Value × Value)) :
    Grows (readStrings field path label fields) := by
  unfold readStrings
  dsimp only
  split
  · exact .pure _
  · exact .bind (note_grows _ _) fun _ => .pure _

theorem textKeys_grows (acc entries : List (Value × Value)) : Grows (textKeys acc entries) := by
  induction entries generalizing acc with
  | nil => exact .pure _
  | cons entry entries ih => exact .bind (textOf_grows _) fun _ => ih _

theorem readVariables_grows (path label : String) (v : Value) :
    Grows (readVariables path label v) := by
  unfold readVariables
  split
  · exact textKeys_grows _ _
  · exact .bind (require_grows _ _ _) fun _ => .pure _

theorem readContext_grows (path label : String) (v : Value) :
    Grows (readContext path label v) := by
  unfold readContext
  split
  · exact .pure _
  · refine .bind (noteUnknown_grows _ _ _ _) fun _ => .bind (readStrings_grows _ _ _ _) fun _ => ?_
    exact .bind (readStrings_grows _ _ _ _) fun _ => .bind (readVariables_grows _ _ _) fun _ =>
      .pure _
  · exact .bind (note_grows _ _) fun _ => .pure _

theorem readStepFields_grows (name label path : String) (fields : List (Value × Value)) :
    Grows (readStepFields name label path fields) := by
  unfold readStepFields
  refine .bind (.forIn fun _ _ => .bind (require_grows _ _ _) fun _ => .pure _) fun _ => ?_
  refine .bind (require_grows _ _ _) fun _ => .bind (readAgent_grows _ _ _) fun _ => ?_
  exact .bind (readContext_grows _ _ _) fun _ => .pure _

theorem readStep_grows (path : String) (index : Nat) (v : Value) :
    Grows (readStep path index v) := by
  have named (name : String) (fields : List (Value × Value)) :
      Grows (readStep.named path index name fields) := by
    refine .bind (noteUnknown_grows _ _ _ _) fun _ => ?_
    dsimp only
    split
    · exact .map (readStepFields_grows _ _ _ _) _
    · exact .bind (note_grows _ _) fun _ => .pure _
  unfold readStep
  split
  · split
    · exact named _ _
    · exact named _ _
    · exact .bind (note_grows _ _) fun _ => .pure _
  · exact .bind (note_grows _ _) fun _ => .pure _

theorem readSteps_grows (path : String) (index : Nat) (vs : List Value) :
    Grows (readSteps path index vs) := by
  induction vs generalizing index with
  | nil => exact .pure _
  | cons v vs ih => exact .bind (readStep_grows _ _ _) fun _ => .bind (ih _) fun _ => .pure _

theorem readWorkflow_grows (name : String) (v : Value) : Grows (readWorkflow name v) := by
  unfold readWorkflow
  split
  · refine .bind (noteUnknown_grows _ _ _ _) fun _ => .bind (require_grows _ _ _) fun _ => ?_
    split
    · refine .bind (readSteps_grows _ _ _) fun found => ?_
      split
      · exact .pure _
      · exact .pure _
    · exact .bind (note_grows _ _) fun _ => .pure _
  · exact .bind (note_grows _ _) fun _ => .pure _

theorem noteErrors_grows (w : Workflow) : Grows (noteErrors w) := by
  unfold noteErrors
  split
  · exact .forM fun _ => note_grows _ _
  · exact .throw _

/-- **All of a document is read without taking errors back.** -/
theorem readEntries_grows (acc : Fields Workflow) (entries : List (Value × Value)) :
    Grows (readEntries acc entries) := by
  induction entries generalizing acc with
  | nil => exact .pure _
  | cons entry entries ih =>
    refine .bind (textOf_grows _) fun name => .bind (readWorkflow_grows _ _) fun found => ?_
    split
    · exact ih _
    · exact .bind (noteErrors_grows _) fun _ => ih _

/-! ### Documents without errors -/

/-- A workflow of which no error is noted has none. -/
theorem errors_eq_nil_of_clean {w : Workflow} (h : Clean (noteErrors w) ()) :
    w.errors = .ok [] := by
  unfold noteErrors at h
  split at h
  · rename_i errors herrors
    cases errors with
    | nil => exact herrors
    | cons e errors =>
      obtain ⟨_, hnote, -⟩ := Clean.of_bind h fun _ => .forM fun _ => note_grows _ _
      cases hnote
  · cases h

/-- Entries that are read without an error add workflows without errors. -/
theorem errors_eq_nil_of_readEntries {acc found : Fields Workflow} {entries : List (Value × Value)}
    (hacc : ∀ f ∈ acc, f.2.errors = .ok []) (h : Clean (readEntries acc entries) found) :
    ∀ f ∈ found, f.2.errors = .ok [] := by
  induction entries generalizing acc with
  | nil =>
    cases h
    exact hacc
  | cons entry entries ih =>
    cases hname : entry.1.text with
    | error e =>
      rw [readEntries, textOf, hname] at h
      cases h
    | ok name =>
      rw [readEntries, textOf, hname, pure_bind] at h
      obtain ⟨read, -, h⟩ := h.of_bind fun read => by
        cases read with
        | none => exact readEntries_grows _ _
        | some w => exact .bind (noteErrors_grows _) fun _ => readEntries_grows _ _
      cases read with
      | none => exact ih hacc h
      | some w =>
        obtain ⟨_, hnoted, h⟩ := h.of_bind fun _ => readEntries_grows _ _
        refine ih (fun f hf => ?_) h
        rcases Fields.mem_set hf with hf | rfl
        · exact hacc f hf
        · exact errors_eq_nil_of_clean hnoted

/-- A document gives workflows just if it has entries and these are read without an error. -/
theorem workflows_eq_ok_iff {doc : Value} {found : Fields Workflow} :
    workflows doc = .ok found ↔
      ∃ fields entries, doc.opened = .map fields ∧
        (Value.lookup "workflows" fields).opened = .map entries ∧ entries ≠ [] ∧
        Clean (readEntries [] entries) found := by
  constructor
  · intro h
    unfold workflows at h
    split at h
    · rename_i fields hfields
      split at h
      · rename_i e entries hentries
        split at h
        · cases h
        · rename_i hread
          cases h
          exact ⟨fields, e :: entries, hfields, hentries, List.cons_ne_nil _ _, hread⟩
        · cases h
      · cases h
    · cases h
  · rintro ⟨fields, entries, hfields, hentries, hne, hread⟩
    obtain ⟨e, rest, rfl⟩ := List.exists_cons_of_ne_nil hne
    rw [Clean] at hread
    simp only [workflows, hfields, hentries, hread]
    rfl

/-- **The workflows of a document have no errors.** -/
theorem errors_eq_nil_of_workflows {doc : Value} {found : Fields Workflow}
    (h : workflows doc = .ok found) : ∀ f ∈ found, f.2.errors = .ok [] := by
  obtain ⟨_, _, -, -, -, hread⟩ := workflows_eq_ok_iff.mp h
  exact errors_eq_nil_of_readEntries (by simp) hread

end Document

/-- Loading is reading. -/
theorem Workflow.load_respects {R : World → World → Prop} [IsPreorder World R]
    (parse : List Char → Except Fault Value) (file : String) :
    Act.Respects R (load parse file) :=
  .bind .read fun _ => .bind
    (.bind (.attempt (.bind (Act.readText_respects _) fun _ => .ofExcept _)) fun _ => .ofExcept _)
    fun _ => .ofExcept _

/-- Workflows that have been loaded from a file have no errors, whatever the file holds and however
it is parsed. -/
theorem Workflow.errors_eq_nil_of_load {parse : List Char → Except Fault Value} {file : String}
    {out : Surroundings} {w w' : World} {found : Fields Workflow}
    (h : (load parse file).perform out w = (.ok found, w')) :
    ∀ f ∈ found, f.2.errors = .ok [] := by
  obtain ⟨_, w₁, -, h⟩ := Act.perform_bind_ok_iff.mp h
  obtain ⟨doc, w₂, -, h⟩ := Act.perform_bind_ok_iff.mp h
  rw [Act.perform_ofExcept, Prod.mk.injEq] at h
  exact Document.errors_eq_nil_of_workflows h.1

end StepFlow
