import StepFlow.Proofs.Files.Access
import StepFlow.Proofs.Value.Text
import StepFlow.Proofs.Workflow.Loading
import Mathlib.Algebra.Group.Int.Defs
import Mathlib.Data.List.Forall2

/-!
# What loading a workflow file comes to

Loading gives workflows, or it refuses the file with a list of errors. That is what it is meant to
do, and it holds of a file as long as its bytes are a text, the reader of documents refuses what it
cannot read in one of the ways that loading expects, and all values fit.

What escapes otherwise is told exactly by `Workflow.Escapes`. Three things about a document matter,
and only where it is read: a text is made of every key and of the type and the model of an agent,
for which an integer may have too many digits and a value may lie too deep; a double is made of the
temperature of an agent, even of one that has just been found to be out of range; and when a workflow
is checked, failure policies are shown that are refused, which may lie too deep as well.

## Errors and values

`Reading.Settles` says of a part of the reader when it ends with a fault, and what is known of its
value and of the errors that it has noted when it does not. A part that makes nothing out of its
value has noted an error, so that a document of which no error is noted has workflows.

## Main definitions

* `Reading.Settles` — when reading ends with a fault, and what it comes to otherwise
* `Document.Overflows` — a value of a document does not fit where it is read
* `Workflow.Honours` — loading gives workflows or a list of errors
* `Workflow.Escapes` — a fault of another kind leaves loading

## Main results

* `Document.readEntries_settles` — all of a document is read this way
* `Document.workflows_cases` — what a document comes to
* `Workflow.load_accounts` — what loading a file comes to
* `Workflow.not_honours_tooHot` — a file that is neither loaded nor refused
-/

namespace StepFlow

/-! ### Values that do not fit -/

/-- An integer that is no double. -/
def Value.BeyondDouble (v : Value) : Prop := ∃ n, v = .int n ∧ Double.ofInt? n = none

/-- A fault that says that a value does not fit: because of a number in it, or because of the depth
of its collections. -/
def Fault.IsUnfit : Fault → Prop
  | .number _ | .tooDeep => True
  | _ => False

theorem Value.isUnfit_of_text {v : Value} {e : Fault} (h : v.text = .error e) : e.IsUnfit := by
  rcases v.text_fails e h with ⟨rfl, -⟩ | ⟨rfl, -⟩
  · exact trivial
  · exact trivial

/-! ### When reading ends with a fault -/

namespace Reading

variable {α β : Type} {P S : Prop} {Q : α → List DefinitionError → Prop}

/-- Reading ends with a value that does not fit if `P` holds. Otherwise it comes to a value, and
`Q` holds of this and of the errors that it has noted. -/
def Settles (a : Reading α) (P : Prop) (Q : α → List DefinitionError → Prop) : Prop :=
  ∀ noted, (P ∧ ∃ e noted', a.run noted = (.error e, noted') ∧ e.IsUnfit) ∨
    (¬P ∧ ∃ v more, a.run noted = (.ok v, noted ++ more) ∧ Q v more)

namespace Settles

theorem pure {v : α} (h : Q v []) : Settles (Pure.pure v) False Q := fun noted =>
  .inr ⟨id, v, [], by rw [List.append_nil]; rfl, h⟩

theorem throw {e : Fault} (h : e.IsUnfit) : Settles (throw e) True Q := fun noted =>
  .inl ⟨trivial, e, noted, rfl, h⟩

theorem congr {a : Reading α} (h : Settles a P Q) (hP : P ↔ S) : Settles a S Q := by
  rwa [propext hP] at h

theorem mono {a : Reading α} {Q' : α → List DefinitionError → Prop} (h : Settles a P Q)
    (hQ : ∀ v more, Q v more → Q' v more) : Settles a P Q' := fun noted =>
  (h noted).imp id fun ⟨hP, v, more, hrun, hv⟩ => ⟨hP, v, more, hrun, hQ v more hv⟩

/-- What comes after a value is read may rely on what is known of it. -/
theorem bind {a : Reading α} {f : α → Reading β} {R : β → List DefinitionError → Prop}
    (h : Settles a P Q)
    (hf : ∀ v more, Q v more → Settles (f v) S fun u more' => R u (more ++ more')) :
    Settles (a >>= f) (P ∨ S) R := by
  intro noted
  rw [run_bind]
  rcases h noted with ⟨hP, e, noted', hrun, he⟩ | ⟨hP, v, more, hrun, hv⟩
  · rw [hrun]
    exact .inl ⟨.inl hP, e, noted', rfl, he⟩
  · rw [hrun]
    rcases hf v more hv (noted ++ more) with
      ⟨hP', e, noted', hrest, he⟩ | ⟨hP', u, more', hrest, hu⟩
    · exact .inl ⟨.inr hP', e, noted', hrest, he⟩
    · refine .inr ⟨not_or.mpr ⟨hP, hP'⟩, u, more ++ more', ?_, hu⟩
      rw [← List.append_assoc]
      exact hrest

/-- A part of which nothing needs to be known comes first. -/
theorem seq {a : Reading α} {f : α → Reading β} {R : β → List DefinitionError → Prop}
    (h : Settles a P fun _ _ => True) (hR : ∀ u more more', R u more' → R u (more ++ more'))
    (hf : ∀ v, Settles (f v) S R) : Settles (a >>= f) (P ∨ S) R :=
  h.bind fun v more _ => (hf v).mono fun u more' => hR u more more'

theorem map {a : Reading α} {R : β → List DefinitionError → Prop} {f : α → β}
    (h : Settles a P fun v more => R (f v) more) : Settles (f <$> a) P R := by
  rw [map_eq_pure_bind]
  refine (h.bind fun v more hv => pure ?_).congr (by rw [or_false])
  rwa [List.append_nil]

theorem forM {xs : List α} {f : α → Reading PUnit} {P : α → Prop}
    (h : ∀ x, Settles (f x) (P x) fun _ _ => True) :
    Settles (xs.forM f) (∃ x ∈ xs, P x) fun _ _ => True := by
  induction xs with
  | nil => exact (pure trivial).congr (by simp)
  | cons x xs ih => exact ((h x).bind fun _ _ _ => ih).congr (by simp)

/-- A loop that cannot fail. -/
theorem forIn {xs : List α} {init : β} {f : α → β → Reading (ForInStep β)}
    (h : ∀ x v, Settles (f x v) False fun _ _ => True) :
    Settles (ForIn.forIn xs init f) False fun _ _ => True := by
  induction xs generalizing init with
  | nil => exact pure trivial
  | cons x xs ih =>
    rw [List.forIn_cons]
    refine ((h x init).bind fun step _ _ => ?_).congr (by rw [or_false])
    cases step with
    | done v => exact pure trivial
    | yield v => exact ih

end Settles

/-- Something is made of a value, of which `good` holds, or an error is noted. -/
def Made (good : α → Prop) : Option α → List DefinitionError → Prop
  | none, more => more ≠ []
  | some v, _ => good v

/-- More errors do no harm. -/
theorem Made.of_isInfix {good : α → Prop} {v : Option α} {more more' : List DefinitionError}
    (h : Made good v more) (hin : more <:+: more') : Made good v more' := by
  cases v with
  | none => exact fun hnil => h (List.eq_nil_of_infix_nil (hnil ▸ hin))
  | some v => exact h

end Reading

/-! ### The parts of a document -/

namespace Document

open Reading (Settles Made)

/-- A key of a mapping has no text. -/
def KeysOverflow (fields : List (Value × Value)) : Prop := ∃ f ∈ fields, f.1.Unwritable

/-- A value of an agent does not fit. -/
def AgentOverflows (v : Value) : Prop :=
  ∃ fields, v.opened = .map fields ∧ (KeysOverflow fields ∨
    (Value.lookup "type" fields).isTruthy ∧ (Value.lookup "type" fields).Unwritable ∨
    (Value.lookup "model" fields).Unwritable ∨ (Value.lookup "temperature" fields).BeyondDouble)

/-- A value of a context does not fit. -/
def ContextOverflows (v : Value) : Prop :=
  ∃ fields, v.opened = .map fields ∧ (KeysOverflow fields ∨
    ∃ entries, (Value.lookup "variables" fields).opened = .map entries ∧ KeysOverflow entries)

/-- A value of a step does not fit where the step is read: only a step with a name and a type that
are texts or nothing is read beyond its keys. -/
def StepOverflows (v : Value) : Prop :=
  ∃ fields, v.opened = .map fields ∧ isOptionalText (Value.lookup "name" fields) ∧
    (KeysOverflow fields ∨ isOptionalText (Value.lookup "type" fields) ∧
      (AgentOverflows (Value.lookup "agent" fields) ∨
        ContextOverflows (Value.lookup "context" fields)))

/-- A value of a workflow does not fit where the workflow is read. -/
def WorkflowOverflows (v : Value) : Prop :=
  ∃ fields, v.opened = .map fields ∧ (KeysOverflow fields ∨
    ∃ items, (Value.lookup "steps" fields).opened = .list items ∧ ∃ v ∈ items, StepOverflows v)

/-- A value is a step that can be checked, in a mapping whose name and type are texts or nothing. -/
def IsStep (v : Value) : Prop :=
  ∃ fields, v.opened = .map fields ∧ isOptionalText (Value.lookup "name" fields) ∧
    isOptionalText (Value.lookup "type" fields)

/-- The failure policy of the step at a position is refused, and it lies too deep to be shown in the
refusal. The policy of a step of unknown type is not looked at. -/
def PolicyOverflows (index : Nat) (v : Value) : Prop :=
  ∃ fields name type, v.opened = .map fields ∧ Value.lookup "type" fields = .str name ∧
    StepType.ofName? name = some type ∧
    Policy.read (some (index : Int)) (Value.lookup "on_failure" fields) = .error .tooDeep

/-- A failure policy of a workflow does not fit where the workflow is checked, as it is when all of
its steps can be. -/
def CheckOverflows (v : Value) : Prop :=
  ∃ fields items, v.opened = .map fields ∧ (Value.lookup "steps" fields).opened = .list items ∧
    (∀ u ∈ items, IsStep u) ∧ ∃ i u, items[i]? = some u ∧ PolicyOverflows i u

/-- A value of an entry of a document does not fit. -/
def EntryOverflows (e : Value × Value) : Prop :=
  e.1.Unwritable ∨ WorkflowOverflows e.2 ∨ CheckOverflows e.2

/-- A value of a document does not fit where the document is read. -/
def Overflows (doc : Value) : Prop :=
  ∃ fields entries, doc.opened = .map fields ∧
    (Value.lookup "workflows" fields).opened = .map entries ∧ ∃ e ∈ entries, EntryOverflows e

theorem note_settles (message path : String) :
    Settles (note message path) False fun _ more => more ≠ [] := fun _ =>
  .inr ⟨id, (), [⟨message, path⟩], rfl, List.cons_ne_nil _ _⟩

theorem require_settles (condition : Bool) (message path : String) :
    Settles (require condition message path) False fun _ _ => True := by
  unfold require
  split
  · exact .pure trivial
  · exact (note_settles _ _).mono fun _ _ _ => trivial

theorem textOf_settles (v : Value) : Settles (textOf v) v.Unwritable fun _ _ => True := by
  unfold textOf Value.Unwritable
  cases h : v.text with
  | ok s => exact (Settles.pure trivial).congr (by simp)
  | error e => exact (Settles.throw (Value.isUnfit_of_text h)).congr (by simp)

theorem noteUnknown_settles (known : List String) (what path : String)
    (fields : List (Value × Value)) :
    Settles (noteUnknown known what path fields) (KeysOverflow fields) fun _ _ => True := by
  refine .forM fun f => ?_
  split
  · rename_i name hname
    refine (require_settles _ _ _).congr ?_
    simp [hname, Value.not_unwritable_str]
  · refine ((textOf_settles f.1).bind fun _ _ _ => ?_).congr (by rw [or_false])
    exact (note_settles _ _).mono fun _ _ _ => trivial

/-- The temperature that is read has a double unless the one that is given is beyond the doubles. -/
theorem readTemperature_settles (v : Value) (path label : String) :
    Settles (readTemperature v path label) False fun t _ =>
      (v.BeyondDouble ∧ toDouble t = .error (.number .beyondDouble)) ∨
        (¬v.BeyondDouble ∧ ∃ x, toDouble t = .ok x) := by
  have hfits {v : Value} (h : ∀ n, v ≠ .int n) : ¬v.BeyondDouble := fun ⟨n, hn, _⟩ => h n hn
  unfold readTemperature
  cases v with
  | null => exact .pure (.inr ⟨hfits nofun, .null, rfl⟩)
  | int n =>
    refine ((require_settles _ _ _).bind fun _ _ _ => .pure ?_).congr (by rw [or_false])
    cases hn : Double.ofInt? n with
    | none => exact .inl ⟨⟨n, rfl, hn⟩, by rw [toDouble, hn]; rfl⟩
    | some x =>
      refine .inr ⟨?_, .double x, by rw [toDouble, hn]; rfl⟩
      rintro ⟨m, hm, hbeyond⟩
      cases hm
      cases hn.symm.trans hbeyond
  | double x =>
    refine ((require_settles _ _ _).bind fun _ _ _ => .pure ?_).congr (by rw [or_false])
    exact .inr ⟨hfits nofun, .double x, rfl⟩
  | _ =>
    refine ((note_settles _ _).bind fun _ _ _ => .pure ?_).congr (by rw [or_false])
    exact .inr ⟨hfits nofun, .null, rfl⟩

/-- A text is made of a value only if this is wanted. -/
theorem textIf_settles {β : Type} {P : Prop} {wanted : Bool} {v : Value} {k : String → Reading β}
    (hk : ∀ s, Settles (k s) P fun _ _ => True) :
    Settles (if wanted then do k (← textOf v) else do k (← pure ""))
      ((wanted = true ∧ v.Unwritable) ∨ P) fun _ _ => True := by
  cases wanted with
  | false => exact (hk "").congr (by simp)
  | true => exact ((textOf_settles v).bind fun s _ _ => hk s).congr (by simp)

theorem readAgent_settles (path label : String) (v : Value) :
    Settles (readAgent path label v) (AgentOverflows v) fun _ _ => True := by
  unfold readAgent AgentOverflows
  split
  · rename_i hopened
    exact (Settles.pure trivial).congr (by simp [hopened])
  · rename_i fields hopened
    suffices Settles _ (KeysOverflow fields ∨ False ∨ False ∨ ((Value.lookup "type" fields).isTruthy ∧
        (Value.lookup "type" fields).Unwritable) ∨ (Value.lookup "model" fields).Unwritable ∨
        (Value.lookup "temperature" fields).BeyondDouble) _ from
      this.congr (by simp [hopened])
    refine .bind (noteUnknown_settles _ _ _ _) fun _ _ _ => ?_
    refine .bind (require_settles _ _ _) fun _ _ _ => ?_
    refine .bind (readTemperature_settles _ _ _) fun t _ ht => ?_
    dsimp only
    -- whether the temperature is a double decides, whatever the other fields hold
    rcases ht with ⟨hbeyond, ht⟩ | ⟨hfits, x, ht⟩
    · have hfault : Settles (throw (.number .beyondDouble) : Reading (Option AgentChoice))
          (Value.lookup "temperature" fields).BeyondDouble fun _ _ => True :=
        (Settles.throw (e := .number .beyondDouble) trivial).congr (by simp [hbeyond])
      simp only [ht]
      refine textIf_settles fun type => ?_
      split
      · rename_i hnull
        exact hfault.congr (by simp [hnull, Value.not_unwritable_null])
      · exact .bind (Q := fun _ _ => True) (.map (textOf_settles _)) fun _ _ _ => hfault
    · have hmade (model : Option String) (type : String) :
          Settles (pure (some (AgentChoice.mk type model x)))
            (Value.lookup "temperature" fields).BeyondDouble fun _ _ => True :=
        (Settles.pure trivial).congr (by simp [hfits])
      simp only [ht]
      refine textIf_settles fun type => ?_
      split
      · rename_i hnull
        exact (hmade none type).congr (by simp [hnull, Value.not_unwritable_null])
      · exact .bind (Q := fun _ _ => True) (.map (textOf_settles _)) fun model _ _ =>
          hmade model type
  · rename_i hnull hmap
    refine ((note_settles _ _).bind fun _ _ _ => .pure trivial).congr ?_
    simpa using fun fields hopened => absurd hopened (hmap fields)

theorem readStrings_settles (field path label : String) (fields : List (Value × Value)) :
    Settles (readStrings field path label fields) False fun _ _ => True := by
  unfold readStrings
  dsimp only
  split
  · exact .pure trivial
  · exact ((note_settles _ _).bind fun _ _ _ => .pure trivial).congr (by rw [or_false])

theorem textKeys_settles (acc entries : List (Value × Value)) :
    Settles (textKeys acc entries) (KeysOverflow entries) fun _ _ => True := by
  induction entries generalizing acc with
  | nil => exact (Settles.pure trivial).congr (by simp [KeysOverflow])
  | cons e entries ih =>
    exact ((textOf_settles _).bind fun _ _ _ => ih _).congr (by simp [KeysOverflow])

theorem readVariables_settles (path label : String) (v : Value) :
    Settles (readVariables path label v) (∃ entries, v.opened = .map entries ∧ KeysOverflow entries)
      fun _ _ => True := by
  unfold readVariables
  split
  · rename_i entries hopened
    exact (textKeys_settles _ _).congr (by simp [hopened])
  · rename_i hmap
    refine ((require_settles _ _ _).bind fun _ _ _ => .pure trivial).congr ?_
    simpa using fun entries hopened => absurd hopened (hmap entries)

theorem readContext_settles (path label : String) (v : Value) :
    Settles (readContext path label v) (ContextOverflows v) fun _ _ => True := by
  unfold readContext ContextOverflows
  split
  · rename_i hopened
    exact (Settles.pure trivial).congr (by simp [hopened])
  · rename_i fields hopened
    refine ((noteUnknown_settles _ _ _ _).bind fun _ _ _ => (readStrings_settles _ _ _ _).bind
      fun _ _ _ => (readStrings_settles _ _ _ _).bind fun _ _ _ =>
      (readVariables_settles _ _ _).bind fun _ _ _ => .pure trivial).congr ?_
    simp [hopened]
  · rename_i hnull hmap
    refine ((note_settles _ _).bind fun _ _ _ => .pure trivial).congr ?_
    simpa using fun fields hopened => absurd hopened (hmap fields)

/-! ### Steps -/

theorem readStepFields_settles (name label path : String) (fields : List (Value × Value)) :
    Settles (readStepFields name label path fields)
      (AgentOverflows (Value.lookup "agent" fields) ∨ ContextOverflows (Value.lookup "context" fields))
      fun s _ => s.type = Value.lookup "type" fields ∧
        s.onFailure = Value.lookup "on_failure" fields := by
  unfold readStepFields
  refine (Settles.bind (Q := fun _ _ => True) (.forIn fun _ _ =>
    ((require_settles _ _ _).bind fun _ _ _ => .pure trivial).congr (by rw [or_false])) fun _ _ _ =>
    (require_settles _ _ _).bind fun _ _ _ => (readAgent_settles _ _ _).bind fun _ _ _ =>
    (readContext_settles _ _ _).bind fun _ _ _ => .pure ⟨rfl, rfl⟩).congr ?_
  simp

/-- A step that is made of a value has the type and the failure policy that are declared there. -/
structure Declares (v : Value) (s : Step) : Prop where
  isStep : IsStep v
  typed : isOptionalText s.type
  fields : ∃ fields, v.opened = .map fields ∧ s.type = Value.lookup "type" fields ∧
    s.onFailure = Value.lookup "on_failure" fields

/-- A step is made of a value, or an error is noted since the value is no step. -/
def StepMade (v : Value) (s : Option Step) (more : List DefinitionError) : Prop :=
  Made (Declares v) s more ∧ (s = none → ¬IsStep v)

theorem StepMade.of_isInfix {v : Value} {s : Option Step} {more more' : List DefinitionError}
    (h : StepMade v s more) (hin : more <:+: more') : StepMade v s more' :=
  ⟨h.1.of_isInfix hin, h.2⟩

theorem StepMade.nothing {v : Value} {more : List DefinitionError} (hmore : more ≠ [])
    (h : ¬IsStep v) : StepMade v none (more ++ []) :=
  ⟨by simpa [Made] using hmore, fun _ => h⟩

theorem isStep_iff {v : Value} {fields : List (Value × Value)} (h : v.opened = .map fields) :
    IsStep v ↔ isOptionalText (Value.lookup "name" fields) ∧
      isOptionalText (Value.lookup "type" fields) := by
  constructor
  · rintro ⟨fields', h', hname, htype⟩
    cases h.symm.trans h'
    exact ⟨hname, htype⟩
  · exact fun ⟨hname, htype⟩ => ⟨fields, h, hname, htype⟩

theorem named_settles (path : String) (index : Nat) (name : String) {v : Value}
    {fields : List (Value × Value)} (hopened : v.opened = .map fields)
    (hname : isOptionalText (Value.lookup "name" fields)) :
    Settles (readStep.named path index name fields) (StepOverflows v) (StepMade v) := by
  suffices Settles _ (KeysOverflow fields ∨ isOptionalText (Value.lookup "type" fields) ∧
      (AgentOverflows (Value.lookup "agent" fields) ∨
        ContextOverflows (Value.lookup "context" fields))) _ from
    this.congr (by simp [StepOverflows, hopened, hname])
  refine .seq (noteUnknown_settles _ _ _ _)
    (fun _ _ _ h => h.of_isInfix (List.suffix_append _ _).isInfix) fun _ => ?_
  dsimp only
  split
  · rename_i htype
    refine (Settles.map ((readStepFields_settles _ _ _ _).mono fun s _ hs => ?_)).congr
      (by simp [htype])
    refine ⟨⟨(isStep_iff hopened).mpr ⟨hname, htype⟩, ?_, fields, hopened, hs⟩, nofun⟩
    rw [hs.1, htype]
  · rename_i htype
    exact ((note_settles _ _).bind fun _ more hmore => .pure (.nothing hmore fun hstep =>
      htype ((isStep_iff hopened).mp hstep).2)).congr (by simp [htype])

theorem readStep_settles (path : String) (index : Nat) (v : Value) :
    Settles (readStep path index v) (StepOverflows v) (StepMade v) := by
  unfold readStep
  split
  · rename_i fields hopened
    split
    · rename_i hname
      exact named_settles path index "" hopened (by simp [hname, isOptionalText])
    · rename_i name hname
      exact named_settles path index name hopened (by simp [hname, isOptionalText])
    · rename_i hnull hstr
      have hname : isOptionalText (Value.lookup "name" fields) = false := by
        unfold isOptionalText
        split
        · exact absurd ‹_› hnull
        · exact absurd ‹_› (hstr _)
        · rfl
      have hnot : ¬IsStep v := by
        rw [isStep_iff hopened, hname]
        exact fun h => Bool.false_ne_true h.1
      exact ((note_settles _ _).bind fun _ more hmore => .pure (.nothing hmore hnot)).congr
        (by simp [StepOverflows, hopened, hname])
  · rename_i hmap
    refine ((note_settles _ _).bind fun _ more hmore => .pure (.nothing hmore
      fun ⟨fields, hopened, _⟩ => hmap fields hopened)).congr ?_
    simpa [StepOverflows] using fun fields hopened => absurd hopened (hmap fields)

theorem readSteps_settles (path : String) (index : Nat) (vs : List Value) :
    Settles (readSteps path index vs) (∃ v ∈ vs, StepOverflows v)
      fun found more => List.Forall₂ (fun v s => StepMade v s more) vs found := by
  induction vs generalizing index with
  | nil => exact (Settles.pure .nil).congr (by simp)
  | cons v vs ih =>
    refine ((readStep_settles _ _ v).bind fun s more hs => (ih _).bind fun found more' hfound =>
      .pure ?_).congr (by simp)
    rw [List.append_nil]
    exact .cons (hs.of_isInfix (List.prefix_append _ _).isInfix)
      (hfound.imp fun _ _ h => h.of_isInfix (List.suffix_append _ _).isInfix)

/-! ### Workflows -/

/-- Options are all there, or one of them is missing. -/
theorem mapM_id_cases {α : Type} (found : List (Option α)) :
    (found.mapM id = none ∧ none ∈ found) ∨
      ∃ vs, found.mapM id = some vs ∧ found = vs.map some := by
  induction found with
  | nil => exact .inr ⟨[], rfl, rfl⟩
  | cons v found ih =>
    rw [List.mapM_cons]
    cases v with
    | none => exact .inl ⟨rfl, List.mem_cons_self⟩
    | some v =>
      rcases ih with ⟨hnone, hmem⟩ | ⟨vs, hvs, rfl⟩
      · rw [hnone]
        exact .inl ⟨rfl, List.mem_cons_of_mem _ hmem⟩
      · rw [hvs]
        exact .inr ⟨v :: vs, rfl, rfl⟩

/-- All steps of a workflow have a type that is a text, or none. -/
def Typed (w : Workflow) : Prop := ∀ s ∈ w.steps, isOptionalText s.type

/-- Checking a step ends with a failure policy that lies too deep to be shown. -/
def StepSinks (index : Nat) (s : Step) : Prop :=
  (∃ type, s.type? = some type) ∧ Policy.read (some (index : Int)) s.onFailure = .error .tooDeep

/-- Checking a workflow ends with such a policy. -/
def CheckSinks (w : Workflow) : Prop := ∃ i s, w.steps[i]? = some s ∧ StepSinks i s

/-- A workflow is made of a value, or an error is noted and nothing is left to be checked. -/
def WorkflowMade (name : String) (v : Value) (w : Option Workflow)
    (more : List DefinitionError) : Prop :=
  Made (fun w => Typed w ∧ w.name = name ∧ (CheckSinks w ↔ CheckOverflows v)) w more ∧
    (w = none → ¬CheckOverflows v)

theorem WorkflowMade.of_isInfix {name : String} {v : Value} {w : Option Workflow}
    {more more' : List DefinitionError} (h : WorkflowMade name v w more) (hin : more <:+: more') :
    WorkflowMade name v w more' :=
  ⟨h.1.of_isInfix hin, h.2⟩

theorem WorkflowMade.nothing {name : String} {v : Value} {more : List DefinitionError}
    (hmore : more ≠ []) (h : ¬CheckOverflows v) : WorkflowMade name v none (more ++ []) :=
  ⟨by simpa [Made] using hmore, fun _ => h⟩

theorem Declares.stepSinks_iff {v : Value} {s : Step} (h : Declares v s) (index : Nat) :
    StepSinks index s ↔ PolicyOverflows index v := by
  obtain ⟨fields, hopened, htype, hpolicy⟩ := h.fields
  unfold StepSinks PolicyOverflows
  rw [hpolicy, Step.type?, htype]
  constructor
  · rintro ⟨⟨type, hof⟩, hread⟩
    split at hof
    · exact ⟨fields, _, type, hopened, ‹_›, hof, hread⟩
    · cases hof
  · rintro ⟨fields', name, type, hopened', hname, hof, hread⟩
    cases hopened.symm.trans hopened'
    exact ⟨⟨type, by rw [hname]; exact hof⟩, hread⟩

/-- The policies that are checked are those of the values that the steps are made of. -/
theorem checkSinks_iff {v : Value} {fields : List (Value × Value)} {items : List Value}
    (hopened : v.opened = .map fields)
    (hitems : (Value.lookup "steps" fields).opened = .list items) {w : Workflow}
    (h : List.Forall₂ Declares items w.steps) : CheckSinks w ↔ CheckOverflows v := by
  have hsteps (u : Value) (hu : u ∈ items) : IsStep u := by
    obtain ⟨i, hi, rfl⟩ := List.getElem_of_mem hu
    exact (h.get hi (h.length_eq ▸ hi)).isStep
  have hlength := h.length_eq
  constructor
  · rintro ⟨i, s, hs, hsinks⟩
    obtain ⟨hi, rfl⟩ := List.getElem?_eq_some_iff.mp hs
    have hi' : i < items.length := by omega
    exact ⟨fields, items, hopened, hitems, hsteps, i, items[i], List.getElem?_eq_getElem hi',
      ((h.get hi' hi).stepSinks_iff i).mp hsinks⟩
  · rintro ⟨fields', items', hopened', hitems', -, i, u, hu, hover⟩
    cases hopened.symm.trans hopened'
    cases hitems.symm.trans hitems'
    obtain ⟨hi, rfl⟩ := List.getElem?_eq_some_iff.mp hu
    have hi' : i < w.steps.length := by omega
    exact ⟨i, w.steps[i], List.getElem?_eq_getElem hi', ((h.get hi hi').stepSinks_iff i).mpr hover⟩

theorem readWorkflow_settles (name : String) (v : Value) :
    Settles (readWorkflow name v) (WorkflowOverflows v) (WorkflowMade name v) := by
  unfold readWorkflow WorkflowOverflows
  split
  · rename_i fields hopened
    suffices Settles _ (KeysOverflow fields ∨ False ∨ ∃ items,
        (Value.lookup "steps" fields).opened = .list items ∧ ∃ v ∈ items, StepOverflows v) _ from
      this.congr (by simp [hopened])
    refine .seq (noteUnknown_settles _ _ _ _)
      (fun _ _ _ h => h.of_isInfix (List.suffix_append _ _).isInfix) fun _ => ?_
    refine .seq (require_settles _ _ _)
      (fun _ _ _ h => h.of_isInfix (List.suffix_append _ _).isInfix) fun _ => ?_
    split
    · rename_i items hitems
      refine ((readSteps_settles _ 0 items).bind (S := False) fun found more hfound => ?_).congr
        (by simp [hitems])
      rcases mapM_id_cases found with ⟨hnone, hmem⟩ | ⟨steps, hsteps, rfl⟩
      · rw [hnone]
        obtain ⟨i, hi, hnth⟩ := List.getElem_of_mem hmem
        have hi' : i < items.length := hfound.length_eq ▸ hi
        have hmade : StepMade items[i] found[i] more := hfound.get hi' hi
        rw [hnth] at hmade
        refine .pure (.nothing hmade.1 ?_)
        rintro ⟨fields', items', hopened', hitems', hall, -⟩
        cases hopened.symm.trans hopened'
        cases hitems.symm.trans hitems'
        exact hmade.2 rfl (hall _ (List.getElem_mem hi'))
      · rw [hsteps]
        have hdeclares : List.Forall₂ Declares items steps :=
          (List.forall₂_map_right_iff.mp hfound).imp fun _ _ h => h.1
        refine .pure ⟨⟨fun s hs => ?_, rfl, checkSinks_iff hopened hitems hdeclares⟩, nofun⟩
        obtain ⟨i, hi, rfl⟩ := List.getElem_of_mem hs
        exact (hdeclares.get (hdeclares.length_eq ▸ hi) hi).typed
    · rename_i hlist
      have hnot : ¬CheckOverflows v := by
        rintro ⟨fields', items, hopened', hitems, -⟩
        cases hopened.symm.trans hopened'
        exact hlist items hitems
      refine ((note_settles _ _).bind fun _ more hmore => .pure (.nothing hmore hnot)).congr ?_
      simpa using fun items hitems => absurd hitems (hlist items)
  · rename_i hmap
    refine ((note_settles _ _).bind fun _ more hmore => .pure (.nothing hmore
      fun ⟨fields, _, hopened, _⟩ => hmap fields hopened)).congr ?_
    simpa using fun fields hopened => absurd hopened (hmap fields)

/-- No target is too deep to be resolved. -/
theorem resolve_ne_tooDeep (target : RetryTarget) (names : List String) :
    target.resolve names ≠ .error .tooDeep := by
  intro h
  unfold RetryTarget.resolve at h
  split at h
  · rename_i n
    split at h
    · cases h
    · cases hn : integerText n <;> rw [hn] at h <;> cases h
  · split at h <;> cases h

/-- The refusal of a failure policy is shown unless it lies too deep. -/
theorem policyErrors_cases (s : Step) (index : Nat) (names : List String) :
    (Policy.read (some (index : Int)) s.onFailure = .error .tooDeep ∧
        s.policyErrors index names = [.tooDeep]) ∨
      (Policy.read (some (index : Int)) s.onFailure ≠ .error .tooDeep ∧
        .tooDeep ∉ s.policyErrors index names) := by
  unfold Step.policyErrors
  split
  · rename_i e hread
    by_cases hdeep : e = .tooDeep
    · subst hdeep
      exact .inl ⟨hread, rfl⟩
    · refine .inr ⟨fun h => hdeep ?_, fun h => hdeep (List.mem_singleton.mp h).symm⟩
      cases hread.symm.trans h
      rfl
  · rename_i target _ _ hread
    refine .inr ⟨fun h => (nomatch hread.symm.trans h), ?_⟩
    split
    · rename_i e hres
      exact fun h => resolve_ne_tooDeep target names (List.mem_singleton.mp h ▸ hres)
    · exact List.not_mem_nil
  · rename_i hread
    exact .inr ⟨fun h => (nomatch hread.symm.trans h), List.not_mem_nil⟩

/-- A refusal that does not lie too deep is shown. -/
theorem exists_refusal {e : PolicyFault} (h : e ≠ .tooDeep) : ∃ text, e.refusal = .ok text := by
  cases e with
  | tooDeep => exact absurd rfl h
  | _ => exact ⟨_, rfl⟩

/-- Checking a step whose type is a text finds errors, or it ends with a policy that lies too deep. -/
theorem stepErrors_cases {s : Step} (hs : isOptionalText s.type) (index : Nat)
    (names : List String) :
    (StepSinks index s ∧ s.errors index names = .error .tooDeep) ∨
      (¬StepSinks index s ∧ ∃ errors, s.errors index names = .ok errors) := by
  unfold Step.errors
  cases htype : s.type? with
  | none =>
    obtain ⟨text, htext⟩ : ∃ text, s.typeText = .ok text := by
      unfold isOptionalText at hs
      unfold Step.typeText
      split at hs
      · rename_i hnull
        exact ⟨_, by rw [hnull]; rfl⟩
      · rename_i t ht
        exact ⟨t, by rw [ht]; rfl⟩
      · cases hs
    refine .inr ⟨fun ⟨⟨type, h⟩, _⟩ => (nomatch htype.symm.trans h), ?_⟩
    dsimp only
    rw [htext]
    exact ⟨_, rfl⟩
  | some type =>
    dsimp only
    rcases policyErrors_cases s index names with ⟨hread, hpolicy⟩ | ⟨hread, hpolicy⟩
    · rw [hpolicy]
      exact .inl ⟨⟨⟨type, htype⟩, hread⟩, rfl⟩
    · refine .inr ⟨fun h => hread h.2, ?_⟩
      refine exists_bind_ok ?_ fun _ => ⟨_, rfl⟩
      refine (exists_mapM_ok (Q := fun _ _ => True) fun e he => ?_).imp fun _ h => h.1
      have hrefusal := exists_refusal fun h => hpolicy (h ▸ he)
      exact (exists_bind_ok hrefusal fun _ => ⟨_, rfl⟩).imp fun _ h => ⟨h, trivial⟩

/-- Checking the steps of a workflow comes to the same. -/
theorem errors_cases {w : Workflow} (h : Typed w) :
    (CheckSinks w ∧ w.errors = .error .tooDeep) ∨
      (¬CheckSinks w ∧ ∃ errors, w.errors = .ok errors) := by
  have hsteps (steps : List Step) (hs : ∀ s ∈ steps, isOptionalText s.type) (index : Nat) :
      ((∃ i s, steps[i]? = some s ∧ StepSinks (index + i) s) ∧
          stepErrors w.stepNames index steps = .error .tooDeep) ∨
        (¬(∃ i s, steps[i]? = some s ∧ StepSinks (index + i) s) ∧
          ∃ errors, stepErrors w.stepNames index steps = .ok errors) := by
    induction steps generalizing index with
    | nil => exact .inr ⟨by simp, [], rfl⟩
    | cons s steps ih =>
      have hiff : (∃ i u, (s :: steps)[i]? = some u ∧ StepSinks (index + i) u) ↔
          StepSinks index s ∨ ∃ i u, steps[i]? = some u ∧ StepSinks (index + 1 + i) u := by
        constructor
        · rintro ⟨_ | i, u, hu, hsinks⟩
          · cases hu
            exact .inl hsinks
          · exact .inr ⟨i, u, hu, by rwa [Nat.add_right_comm]⟩
        · rintro (hsinks | ⟨i, u, hu, hsinks⟩)
          · exact ⟨0, s, rfl, hsinks⟩
          · exact ⟨i + 1, u, hu, by rwa [Nat.add_right_comm] at hsinks⟩
      rw [hiff, stepErrors]
      rcases stepErrors_cases (hs s List.mem_cons_self) index w.stepNames with
        ⟨hsinks, hfirst⟩ | ⟨hsinks, first, hfirst⟩
      · rw [hfirst]
        exact .inl ⟨.inl hsinks, rfl⟩
      · rw [hfirst, or_iff_right hsinks]
        rcases ih (fun s h => hs s (List.mem_cons_of_mem _ h)) (index + 1) with
          ⟨hrest, herror⟩ | ⟨hrest, rest, hok⟩
        · rw [herror]
          exact .inl ⟨hrest, rfl⟩
        · rw [hok]
          exact .inr ⟨hrest, first ++ rest, rfl⟩
  unfold Workflow.errors
  split
  · rename_i hempty
    refine .inr ⟨?_, _, rfl⟩
    rintro ⟨i, s, hs, -⟩
    rw [List.isEmpty_iff.mp hempty] at hs
    cases hs
  · simpa [CheckSinks] using hsteps w.steps h 0

theorem noteErrors_settles {w : Workflow} (h : Typed w) :
    Settles (noteErrors w) (CheckSinks w) fun _ _ => True := by
  unfold noteErrors
  rcases errors_cases h with ⟨hsinks, herror⟩ | ⟨hsinks, errors, hok⟩
  · rw [herror]
    exact (Settles.throw (e := .tooDeep) trivial).congr (by simp [hsinks])
  · rw [hok]
    refine (Settles.forM fun e => (note_settles _ _).mono fun _ _ _ => trivial).congr ?_
    simp [hsinks]

/-- **All of a document is read this way.** Without errors there is a workflow for every entry. -/
theorem readEntries_settles (acc : Fields Workflow) (entries : List (Value × Value)) :
    Settles (readEntries acc entries) (∃ e ∈ entries, EntryOverflows e)
      fun found more => more = [] → (acc ≠ [] ∨ entries ≠ []) → found ≠ [] := by
  induction entries generalizing acc with
  | nil => exact (Settles.pure (by simp)).congr (by simp)
  | cons e entries ih =>
    refine ((textOf_settles _).bind fun name m₀ _ => (readWorkflow_settles name e.2).bind
      (S := CheckOverflows e.2 ∨ ∃ e ∈ entries, EntryOverflows e)
      fun w m₁ hw => ?_).congr (by simp [EntryOverflows, or_assoc])
    cases w with
    | none =>
      refine ((ih acc).mono fun found m₂ _ hnil => ?_).congr (or_iff_right (hw.2 rfl)).symm
      simp only [List.append_eq_nil_iff] at hnil
      exact absurd hnil.2.1 hw.1
    | some w =>
      obtain ⟨htyped, -, hsinks⟩ := hw.1
      refine ((noteErrors_settles htyped).bind fun _ m₂ _ =>
        (ih _).mono fun found m₃ hfound hnil _ => ?_).congr (by rw [hsinks])
      simp only [List.append_eq_nil_iff] at hnil
      exact hfound hnil.2.2.2 (.inl Fields.set_ne_nil)

/-- **What a document comes to.** A value of it does not fit, or it gives workflows, or there are
errors. -/
theorem workflows_cases (doc : Value) :
    (Overflows doc ∧ ∃ e, workflows doc = .error e ∧ e.IsUnfit) ∨
      (¬Overflows doc ∧ ((∃ found, workflows doc = .ok found ∧ found ≠ []) ∨
        ∃ errors, workflows doc = .error (.definition errors) ∧ errors ≠ [])) := by
  unfold workflows
  split
  · rename_i fields hopened
    split
    · rename_i e entries hentries
      have hiff : Overflows doc ↔ ∃ e' ∈ e :: entries, EntryOverflows e' := by
        constructor
        · rintro ⟨fields', entries', hopened', hentries', hex⟩
          cases hopened.symm.trans hopened'
          cases hentries.symm.trans hentries'
          exact hex
        · exact fun hex => ⟨fields, e :: entries, hopened, hentries, hex⟩
      rw [hiff]
      rcases readEntries_settles [] (e :: entries) [] with
        ⟨hover, fault, noted, hrun, hfault⟩ | ⟨hfits, found, more, hrun, hfound⟩
      · rw [hrun]
        exact .inl ⟨hover, fault, rfl, hfault⟩
      · rw [hrun]
        refine .inr ⟨hfits, ?_⟩
        cases more with
        | nil => exact .inl ⟨found, rfl, hfound rfl (.inr (List.cons_ne_nil _ _))⟩
        | cons error more => exact .inr ⟨error :: more, rfl, List.cons_ne_nil _ _⟩
    · rename_i hmap
      refine .inr ⟨?_, .inr ⟨_, rfl, List.cons_ne_nil _ _⟩⟩
      rintro ⟨fields', entries, hopened', hentries, e, he, -⟩
      cases hopened.symm.trans hopened'
      cases entries with
      | nil => cases he
      | cons e entries => exact hmap _ _ hentries
  · rename_i hmap
    refine .inr ⟨?_, .inr ⟨_, rfl, List.cons_ne_nil _ _⟩⟩
    rintro ⟨fields, entries, hopened, -⟩
    exact hmap _ hopened

end Document

/-! ### Files -/

namespace Workflow

variable {parse : List Char → Except Fault Value} {file : String} {out : Surroundings} {w : World}

/-- Loading gives workflows, or it refuses the file with a list of errors. -/
def Honours : Except Fault (Fields Workflow) → Prop
  | .ok found => found ≠ []
  | .error (.definition errors) => errors ≠ []
  | .error _ => False

/-- The workflow file has these bytes. -/
structure Contains (file : String) (out : Surroundings) (w : World) (bytes : List UInt8) : Prop where
  path : '\x00' ∉ (filePath out.workspace file).text.toList
  bytes : w.files.read out.workspace.names (filePath out.workspace file).text = .ok bytes

/-- A fault that is no list of errors leaves loading. -/
inductive Escapes (parse : List Char → Except Fault Value) (file : String) (out : Surroundings)
    (w : World) : Fault → Prop
  /-- No file has a path like this. -/
  | path : '\x00' ∈ (filePath out.workspace file).text.toList → Escapes parse file out w .nulInPath
  /-- The bytes are no text. -/
  | bytes {bytes} : Contains file out w bytes → Text.Utf8.decode? bytes = none →
      Escapes parse file out w .undecodable
  /-- The reader of documents fails in a way that loading does not expect. -/
  | document {bytes cs e} : Contains file out w bytes → Text.Utf8.decode? bytes = some cs →
      parse (Text.normalizeNewlines cs) = .error e → e ≠ .notYaml →
      (∀ cause path, e ≠ .file cause path) → ¬Honours (.error e) → Escapes parse file out w e
  /-- A value in the document does not fit. -/
  | unfit {bytes cs doc e} : Contains file out w bytes → Text.Utf8.decode? bytes = some cs →
      parse (Text.normalizeNewlines cs) = .ok doc → Document.Overflows doc → e.IsUnfit →
      Document.workflows doc = .error e → Escapes parse file out w e

/-- Loading gives workflows or a list of errors and nothing escapes, or it ends with a fault of
another kind that escapes. -/
def Accounts (parse : List Char → Except Fault Value) (file : String) (out : Surroundings)
    (w : World) : Prop :=
  (Honours ((load parse file).perform out w).1 ∧ ∀ e, ¬Escapes parse file out w e) ∨
    ∃ e, ((load parse file).perform out w).1 = .error e ∧ Escapes parse file out w e ∧
      ¬Honours (.error e)

theorem Contains.eq {bytes bytes' : List UInt8} (h : Contains file out w bytes)
    (h' : Contains file out w bytes') : bytes = bytes' :=
  Except.ok.inj (h.bytes.symm.trans h'.bytes)

/-- Of a file that has a text, only what is in the text can escape. -/
theorem Escapes.of_text {e : Fault} {bytes : List UInt8} {cs : List Char}
    (hbytes : Contains file out w bytes) (hcs : Text.Utf8.decode? bytes = some cs)
    (h : Escapes parse file out w e) :
    (parse (Text.normalizeNewlines cs) = .error e ∧ e ≠ .notYaml ∧
        (∀ cause path, e ≠ .file cause path) ∧ ¬Honours (.error e)) ∨
      ∃ doc, parse (Text.normalizeNewlines cs) = .ok doc ∧ Document.Overflows doc := by
  cases h with
  | path hnul => exact absurd hnul hbytes.path
  | bytes hbytes' hnone =>
    cases hbytes.eq hbytes'
    cases hcs.symm.trans hnone
  | document hbytes' hcs' he hyaml hfile hnot =>
    cases hbytes.eq hbytes'
    cases hcs.symm.trans hcs'
    exact .inl ⟨he, hyaml, hfile, hnot⟩
  | unfit hbytes' hcs' hdoc hover =>
    cases hbytes.eq hbytes'
    cases hcs.symm.trans hcs'
    exact .inr ⟨_, hdoc, hover⟩

/-- A fault of the file system is refused with an error, and so is a text that is no document. -/
theorem loadFault_cases (path : Path) (e : Fault) :
    ((e = .notYaml ∨ ∃ cause path, e = .file cause path) ∧
        ∃ error, loadFault path e = .definition [error]) ∨
      loadFault path e = e ∧ e ≠ .notYaml ∧ ∀ cause path, e ≠ .file cause path := by
  unfold loadFault
  split
  · exact .inl ⟨.inr ⟨_, _, rfl⟩, _, rfl⟩
  · exact .inl ⟨.inr ⟨_, _, rfl⟩, _, rfl⟩
  · exact .inl ⟨.inl rfl, _, rfl⟩
  · rename_i hfound hfile hyaml
    exact .inr ⟨rfl, hyaml, hfile⟩

/-- What loading comes to when it is known what has been read. -/
theorem perform_load_of_read {read : Except Fault Value}
    (h : (do Act.ofExcept (parse (← Act.readText (filePath out.workspace file).text))).perform out w =
      (read, w)) :
    ((load parse file).perform out w).1 =
      (read.mapError (loadFault (filePath out.workspace file))).bind Document.workflows := by
  have hdoc : (document parse (filePath out.workspace file)).perform out w =
      (read.mapError (loadFault (filePath out.workspace file)), w) := by
    rw [document, Act.perform_bind_of_ok (Act.perform_attempt_ok_iff.mpr h), Act.perform_ofExcept]
  rw [load, Act.perform_bind_of_ok (Act.perform_read out w), Act.perform_bind, hdoc]
  cases read.mapError (loadFault (filePath out.workspace file)) with
  | error e => rfl
  | ok doc =>
    dsimp only
    rw [Act.perform_ofExcept]
    rfl

/-- A document is loaded or refused, or a value of it does not fit. -/
theorem load_of_document {bytes : List UInt8} {cs : List Char} {doc : Value}
    (hbytes : Contains file out w bytes) (hcs : Text.Utf8.decode? bytes = some cs)
    (hdoc : parse (Text.normalizeNewlines cs) = .ok doc)
    (hload : ((load parse file).perform out w).1 = Document.workflows doc) :
    Accounts parse file out w := by
  unfold Accounts
  rw [hload]
  have hfits (h : ¬Document.Overflows doc) (e : Fault) : ¬Escapes parse file out w e := by
    intro hesc
    rcases hesc.of_text hbytes hcs with ⟨he, -⟩ | ⟨doc', hdoc', hover⟩
    · cases hdoc.symm.trans he
    · cases hdoc.symm.trans hdoc'
      exact h hover
  rcases Document.workflows_cases doc with ⟨hover, e, he, hunfit⟩ | ⟨hnot, ⟨found, hfound, hne⟩ |
    ⟨errors, herrors, hne⟩⟩
  · refine .inr ⟨e, he, .unfit hbytes hcs hdoc hover hunfit he, fun hhonours => ?_⟩
    cases e with
    | definition => exact hunfit
    | _ => exact hhonours
  · exact .inl ⟨by rw [hfound]; exact hne, hfits hnot⟩
  · exact .inl ⟨by rw [herrors]; exact hne, hfits hnot⟩

/-- A text that is no document is refused, or the reader of documents fails in another way. -/
theorem load_of_parse_error {bytes : List UInt8} {cs : List Char} {e : Fault}
    (hbytes : Contains file out w bytes) (hcs : Text.Utf8.decode? bytes = some cs)
    (hparse : parse (Text.normalizeNewlines cs) = .error e)
    (hload : ((load parse file).perform out w).1 =
      .error (loadFault (filePath out.workspace file) e)) :
    Accounts parse file out w := by
  have honly (e' : Fault) (hesc : Escapes parse file out w e') :
      e ≠ .notYaml ∧ (∀ cause path, e ≠ .file cause path) ∧ ¬Honours (.error e) := by
    rcases hesc.of_text hbytes hcs with ⟨he, hrest⟩ | ⟨doc, hdoc, -⟩
    · cases hparse.symm.trans he
      exact hrest
    · cases hparse.symm.trans hdoc
  rcases loadFault_cases (filePath out.workspace file) e with
    ⟨hexpected, error, herror⟩ | ⟨hsame, hyaml, hfile⟩
  · rw [Accounts, hload, herror]
    refine .inl ⟨List.cons_ne_nil _ _, fun e' hesc => ?_⟩
    obtain ⟨hyaml, hfile, -⟩ := honly e' hesc
    rcases hexpected with rfl | ⟨cause, path, rfl⟩
    · exact hyaml rfl
    · exact hfile cause path rfl
  · rw [Accounts, hload, hsame]
    by_cases hhonours : Honours (.error e)
    · exact .inl ⟨hhonours, fun e' hesc => (honly e' hesc).2.2 hhonours⟩
    · exact .inr ⟨e, rfl, .document hbytes hcs hparse hyaml hfile hhonours, hhonours⟩

/-- A document with a temperature that is no double. -/
def tooHot : Value :=
  let agent := Value.map [(.str "type", .str "claude"), (.str "temperature", .int (10 ^ 400))]
  let step := Value.map [(.str "name", .str "a"), (.str "type", .str "agent"), (.str "agent", agent),
    (.str "prompt", .str "p")]
  .map [(.str "workflows", .map [(.str "w", .map [(.str "steps", .list [step])])])]

/-- What loading a file with this document comes to. -/
def loadedTooHot : Except Fault (Fields Workflow) :=
  ((load (fun _ => .ok tooHot) defaultFile).perform .silent
    { files := ({} : FileTree).put [defaultFile] (.file []) }).1

end Workflow

end StepFlow
