import StepFlow.Proofs.Workflow.Loading
import StepFlow.Proofs.Workflow.Schema

/-!
# What the reader of documents asks for

The reader notes what does not fit where it comes across it. `Reading.Gives` says when it has noted
nothing at the end, and what it has made of the document then. Since no error is taken back, a
sequence is in order just if both of its parts are, and so the parts of the reader can be looked at
one by one.

The reader leaves some of the form of a document to the check of the finished workflow, which looks
at what concerns several fields or steps at once. So every mapping has a weaker predicate here,
`AgentReads` and the like, which has the part of the reader.

A text is made of the names of workflows, of the types and models of agents and of the names of
variables, whatever they are. So the reader asks for more than its notes say: such a value must have
a text.

## Main definitions

* `Reading.Gives` — when reading notes no error, and what it comes to then
* `Schema.AgentReads`, `StepReads`, `WorkflowReads` — what the reader asks of mappings

## Main results

* `Schema.readAgent_gives`, `readContext_gives`, `readStep_gives` — the parts of a document
* `Schema.readWorkflow_gives` — a workflow
-/

namespace StepFlow

open Value (lookup)

/-! ### When reading notes no error -/

namespace Reading

variable {α β : Type} {P S : Prop}

/-- Reading comes to a value without an error just if `P` holds, and then it is `v`. -/
structure Gives (a : Reading α) (P : Prop) (v : α) : Prop where
  grows : Grows a
  clean_iff : ∀ u, Clean a u ↔ P ∧ u = v

namespace Gives

theorem pure (v : α) : Gives (Pure.pure v) True v where
  grows := .pure v
  clean_iff u := by
    constructor
    · intro h
      cases h
      exact ⟨trivial, rfl⟩
    · rintro ⟨-, rfl⟩
      rfl

theorem throw (e : Fault) (v : α) : Gives (throw e) False v where
  grows := .throw e
  clean_iff u := iff_of_false (by rintro ⟨⟩) fun h => h.1

theorem congr {a : Reading α} {v v' : α} (h : Gives a P v) (hP : P ↔ S) (hv : S → v = v') :
    Gives a S v' where
  grows := h.grows
  clean_iff u := by
    rw [h.clean_iff u, hP]
    refine and_congr_right fun hS => ?_
    rw [hv hS]

/-- Both parts of a sequence must be in order. -/
theorem bind {a : Reading α} {f : α → Reading β} {v : α} {S : α → Prop} {g : α → β}
    (h : Gives a P v) (hf : ∀ x, Gives (f x) (S x) (g x)) : Gives (a >>= f) (P ∧ S v) (g v) where
  grows := .bind h.grows fun x => (hf x).grows
  clean_iff u := by
    have hgrows (x : α) : Grows (f x) := (hf x).grows
    constructor
    · intro hclean
      obtain ⟨x, ha, hx⟩ := hclean.of_bind hgrows
      obtain ⟨hP, rfl⟩ := (h.clean_iff x).mp ha
      obtain ⟨hS, hu⟩ := ((hf x).clean_iff u).mp hx
      exact ⟨⟨hP, hS⟩, hu⟩
    · rintro ⟨⟨hP, hS⟩, rfl⟩
      have ha : a.run [] = (.ok v, []) := (h.clean_iff v).mpr ⟨hP, rfl⟩
      rw [Clean, run_bind, ha]
      exact ((hf v).clean_iff _).mpr ⟨hS, rfl⟩

/-- A part that comes to nothing stands first. -/
theorem seq {a : Reading PUnit} {f : PUnit → Reading β} {u : β} (h : Gives a P ⟨⟩)
    (hf : Gives (f ⟨⟩) S u) : Gives (a >>= f) (P ∧ S) u :=
  h.bind fun _ => hf

theorem map {a : Reading α} {v : α} (h : Gives a P v) (f : α → β) : Gives (f <$> a) P (f v) := by
  rw [map_eq_pure_bind]
  exact (h.bind fun x => pure (f x)).congr (by rw [and_true]) fun _ => rfl

theorem forM {xs : List α} {f : α → Reading PUnit} {P : α → Prop} (h : ∀ x, Gives (f x) (P x) ⟨⟩) :
    Gives (xs.forM f) (∀ x ∈ xs, P x) ⟨⟩ := by
  induction xs with
  | nil => exact (pure _).congr (by simp) fun _ => rfl
  | cons x xs ih => exact ((h x).bind fun _ => ih).congr (by simp) fun _ => rfl

/-- A loop in which nothing is kept. -/
theorem forIn {xs : List α} {f : α → Reading PUnit} {P : α → Prop} (h : ∀ x, Gives (f x) (P x) ⟨⟩) :
    Gives (ForIn.forIn xs PUnit.unit fun x _ => do f x; Pure.pure (ForInStep.yield PUnit.unit))
      (∀ x ∈ xs, P x) ⟨⟩ := by
  have hloop : (ForIn.forIn xs PUnit.unit fun x _ => do
      f x; Pure.pure (ForInStep.yield PUnit.unit)) = xs.forM f := by
    induction xs with
    | nil => rfl
    | cons x xs ih =>
      rw [List.forIn_cons, bind_assoc]
      simp only [pure_bind, ih]
      rfl
  rw [hloop]
  exact forM h

end Gives

end Reading

namespace Schema

open Document (isOptionalText strings? toDouble)

variable {v : Value} {fields : List (Value × Value)}

/-! ### What the reader asks for -/

/-- What reading an agent asks for. -/
structure AgentReads (fields : List (Value × Value)) : Prop where
  keys : Keys ["type", "model", "temperature"] fields
  type : (lookup "type" fields).isTruthy = true ∧ (lookup "type" fields).HasText
  model : (lookup "model" fields).HasText
  temperature : Temperature (lookup "temperature" fields)

/-- What reading a step asks for. -/
structure StepReads (fields : List (Value × Value)) : Prop where
  keys : Keys ["name", "type", "agent", "command", "context", "prompt", "on_success", "on_failure",
    "timeout_sec"] fields
  name : OptionalText (lookup "name" fields)
  type : OptionalText (lookup "type" fields)
  texts : ∀ field ∈ ["command", "prompt", "on_success"], OptionalText (lookup field fields)
  timeout : TimeLimit (lookup "timeout_sec" fields)
  agent : OptionalMap AgentReads (lookup "agent" fields)
  context : OptionalMap ContextFields (lookup "context" fields)

/-- What reading a workflow asks for. -/
structure WorkflowReads (fields : List (Value × Value)) : Prop where
  keys : Keys ["description", "steps"] fields
  description : OptionalText (lookup "description" fields)
  steps : ∃ items, (lookup "steps" fields).opened = .list items ∧ ∀ v ∈ items, Map StepReads v

open Reading (Gives)

theorem note_gives (message path : String) : Gives (Document.note message path) False () where
  grows := Document.note_grows message path
  clean_iff u := iff_of_false (by rintro ⟨⟩) fun h => h.1

/-- A note is made where something does not fit. -/
theorem note_fails {α : Type} {P : Prop} (h : ¬P) (message path : String) (x v : α) :
    Gives (do Document.note message path; return x) P v where
  grows := .bind (Document.note_grows _ _) fun _ => .pure _
  clean_iff u := iff_of_false (by rintro ⟨⟩) fun hu => h hu.1

theorem require_gives (condition : Bool) (message path : String) :
    Gives (Document.require condition message path) (condition = true) () := by
  cases condition with
  | true => exact (Gives.pure _).congr (by simp) fun _ => rfl
  | false => exact (note_gives _ _).congr (by simp) fun _ => rfl

theorem textOf_gives (v : Value) : Gives (Document.textOf v) v.HasText (textIn v) := by
  unfold Document.textOf textIn Value.HasText
  cases v.text with
  | ok s => exact (Gives.pure s).congr (by simp) fun _ => rfl
  | error e => exact (Gives.throw e _).congr (by simp) fun _ => rfl

theorem noteUnknown_gives (known : List String) (what path : String)
    (fields : List (Value × Value)) :
    Gives (Document.noteUnknown known what path fields) (Keys known fields) () := by
  refine .forM fun f => ?_
  split
  · rename_i name hname
    exact (require_gives _ _ _).congr (by simp [hname]) fun _ => rfl
  · rename_i hkey
    have hfalse : ¬∃ name ∈ known, f.1 = .str name := fun ⟨name, _, hname⟩ => hkey name hname
    refine ⟨.bind (Document.textOf_grows _) fun _ => Document.note_grows _ _, fun u => ?_⟩
    refine iff_of_false (fun hclean => ?_) fun h => hfalse h.1
    obtain ⟨_, -, hnote⟩ := hclean.of_bind fun _ => Document.note_grows _ _
    cases hnote

theorem readTemperature_gives (v : Value) (path label : String) :
    Gives (Document.readTemperature v path label) (Temperature v) v := by
  unfold Document.readTemperature
  split
  · rename_i hnumber
    rw [isNumber_iff] at hnumber
    refine ((require_gives _ _ _).seq (.pure v)).congr ?_ fun _ => rfl
    have hnull : v ≠ .null := by
      rintro rfl
      rcases hnumber with ⟨n, hn⟩ | ⟨x, hx⟩
      · cases hn
      · cases hx
    simp [Temperature, isFraction_iff, hnull, hnumber]
  · rename_i hnumber
    rw [isNumber_iff] at hnumber
    split
    · exact (Gives.pure _).congr (by simp [Temperature]) fun _ => rfl
    · rename_i hnull
      have hfalse : ¬Temperature v := by
        rintro (h | h)
        · exact hnull h
        · exact hnumber h.1
      exact note_fails hfalse _ _ _ _

/-- A text is made of a value only if this is wanted. -/
theorem textIf_gives {β : Type} {wanted : Bool} {k : String → Reading β} {S : String → Prop}
    {g : String → β} (v : Value) (hk : ∀ s, Gives (k s) (S s) (g s)) :
    Gives (if wanted then do k (← Document.textOf v) else do k (← pure ""))
      ((wanted = true → v.HasText) ∧ S (if wanted then textIn v else ""))
      (g (if wanted then textIn v else "")) := by
  cases wanted with
  | false => exact (hk "").congr (by simp) fun _ => rfl
  | true => exact ((textOf_gives v).bind hk).congr (by simp) fun _ => rfl

theorem readAgent_gives (path label : String) (v : Value) :
    Gives (Document.readAgent path label v) (OptionalMap AgentReads v) (map? agentOf v) := by
  unfold Document.readAgent
  split
  · rename_i hnull
    exact (Gives.pure _).congr (by simp [OptionalMap, hnull]) fun _ => by simp [map?, hnull]
  · rename_i fields hopened
    let made (type : String) (temperature : Value) : Option AgentChoice :=
      some ⟨type, given? textIn (lookup "model" fields), temperature⟩
    let type := if (lookup "type" fields).isTruthy then textIn (lookup "type" fields) else ""
    refine Gives.congr (.seq (noteUnknown_gives _ _ _ _) (.seq (require_gives _ _ _)
      (Gives.bind (S := fun t => ((lookup "type" fields).isTruthy = true →
          (lookup "type" fields).HasText) ∧ (lookup "model" fields).HasText ∧
          ∃ x, toDouble t = .ok x)
        (g := fun t => made type ((toDouble t).toOption.getD .null))
        (readTemperature_gives _ _ _) fun t => ?_))) ?_ ?_
    · dsimp only
      -- no value comes out of a temperature without a double, whatever the other fields hold
      cases ht : toDouble t with
      | error e =>
        refine (textIf_gives (S := fun _ => False) (g := fun _ => none) _
          fun type => ?_).congr (by simp) (by simp)
        split
        · exact ((Gives.pure none).bind fun _ => .throw e none).congr (by simp) (by simp)
        · have hread := (textOf_gives (lookup "model" fields)).map some
          exact (hread.bind fun _ => .throw e none).congr (by simp) (by simp)
      | ok x =>
        refine (textIf_gives (S := fun _ => (lookup "model" fields).HasText)
          (g := fun type => made type x) _ fun type => ?_).congr (by simp) fun _ => rfl
        have hpure (model : Option String) :
            Gives (pure (some (AgentChoice.mk type model x))) True (some ⟨type, model, x⟩) :=
          .pure _
        split
        · rename_i hnull
          refine ((Gives.pure none).bind hpure).congr (by simp [hnull, Value.hasText_null])
            fun _ => ?_
          simp only [made, hnull, given?]
        · rename_i hnull
          refine (((textOf_gives _).map some).bind hpure).congr (by simp) fun _ => ?_
          simp only [made, given?_of_ne hnull]
    · rw [optionalMap_iff hopened]
      constructor
      · rintro ⟨hkeys, htype, htemperature, htext, hmodel, -⟩
        exact ⟨hkeys, ⟨htype, htext htype⟩, hmodel, htemperature⟩
      · rintro ⟨hkeys, ⟨htype, htext⟩, hmodel, htemperature⟩
        exact ⟨hkeys, htype, htemperature, fun _ => htext, hmodel, _, htemperature.toDouble_eq⟩
    · rw [optionalMap_iff hopened, map?_eq_some agentOf hopened]
      rintro ⟨-, ⟨htype, -⟩, -, htemperature⟩
      simp [made, type, agentOf, htype, htemperature.toDouble_eq, Except.toOption]
  · rename_i hnull hmap
    exact note_fails (not_optionalMap hnull hmap) _ _ _ _

theorem readStrings_gives (field path label : String) (fields : List (Value × Value)) :
    Gives (Document.readStrings field path label fields) (Texts (lookup field fields))
      ((itemsOf (lookup field fields)).filterMap text?) := by
  unfold Document.readStrings
  dsimp only
  generalize lookup field fields = v
  split
  · rename_i names hfound
    split at hfound
    · rename_i items hopened
      obtain rfl := strings?_eq_some_iff.mp hfound
      refine (Gives.pure _).congr (iff_of_true trivial (.inr ⟨names, hopened⟩)) fun _ => ?_
      rw [itemsOf_eq hopened, filterMap_text?_map_str]
    · rename_i hlist
      split at hfound
      · cases hfound
      · rename_i hfalsy
        cases hfound
        refine (Gives.pure _).congr (by simp [Texts, hfalsy]) fun _ => ?_
        rw [itemsOf_eq_nil hlist]
        rfl
  · rename_i hfound
    refine note_fails ?_ _ _ _ _
    split at hfound
    · rename_i items hopened
      rintro (hfalsy | ⟨names, hnames⟩)
      · rw [hopened, Value.isTruthy, Bool.not_eq_false', List.isEmpty_iff] at hfalsy
        rw [hfalsy] at hfound
        cases hfound
      · cases hopened.symm.trans hnames
        cases hfound.symm.trans (strings?_eq_some_iff.mpr rfl)
    · rename_i hlist
      split at hfound
      · rename_i htruthy
        rintro (hfalsy | ⟨names, hnames⟩)
        · cases htruthy.symm.trans hfalsy
        · exact hlist _ hnames
      · cases hfound

theorem textKeys_gives (entries acc : List (Value × Value)) :
    Gives (Document.textKeys acc entries) (TextKeys entries)
      ((entries.map fun e => (.str (textIn e.1), e.2)).foldl (fun acc e => Value.insert e.1 e.2 acc)
        acc) := by
  induction entries generalizing acc with
  | nil => exact (Gives.pure _).congr (by simp [TextKeys]) fun _ => rfl
  | cons e entries ih =>
    exact ((textOf_gives e.1).bind fun _ => ih _).congr (by simp [TextKeys]) fun _ => rfl

theorem readVariables_gives (path label : String) (v : Value) :
    Gives (Document.readVariables path label v) (v.opened.isTruthy = false ∨ Map TextKeys v)
      (Value.entriesOf ((fieldsOf v).map fun e => (.str (textIn e.1), e.2))) := by
  unfold Document.readVariables
  split
  · rename_i entries hopened
    have hfalsy : v.opened.isTruthy = false → TextKeys entries := by
      rw [hopened, Value.isTruthy, Bool.not_eq_false', List.isEmpty_iff]
      rintro rfl
      exact fun _ hf => nomatch hf
    refine (textKeys_gives entries []).congr ?_ fun _ => ?_
    · rw [map_iff hopened, or_iff_right_of_imp hfalsy]
    · rw [fieldsOf_eq hopened]
      rfl
  · rename_i hmap
    refine ((require_gives _ _ _).seq (.pure [])).congr (by simp [not_map hmap]) fun _ => ?_
    rw [fieldsOf_eq_nil hmap]
    rfl

theorem readContext_gives (path label : String) (v : Value) :
    Gives (Document.readContext path label v) (OptionalMap ContextFields v) (map? contextOf v) := by
  unfold Document.readContext
  split
  · rename_i hnull
    exact (Gives.pure _).congr (by simp [OptionalMap, hnull]) fun _ => by simp [map?, hnull]
  · rename_i fields hopened
    refine ((noteUnknown_gives _ _ _ _).seq <| (readStrings_gives _ _ _ _).bind fun files =>
      (readStrings_gives _ _ _ _).bind fun commands =>
      (readVariables_gives _ _ _).bind fun vars =>
      .pure (some (ContextSpec.mk files commands vars))).congr ?_ fun _ => ?_
    · rw [optionalMap_iff hopened]
      constructor
      · rintro ⟨hkeys, hfiles, hcommands, hvars, -⟩
        exact ⟨hkeys, hfiles, hcommands, hvars⟩
      · rintro ⟨hkeys, hfiles, hcommands, hvars⟩
        exact ⟨hkeys, hfiles, hcommands, hvars, trivial⟩
    · rw [map?_eq_some contextOf hopened]
      rfl
  · rename_i hnull hmap
    exact note_fails (not_optionalMap hnull hmap) _ _ _ _

theorem readStepFields_gives (name label path : String) (fields : List (Value × Value)) :
    Gives (Document.readStepFields name label path fields)
      ((∀ field ∈ ["command", "prompt", "on_success"], OptionalText (lookup field fields)) ∧
        TimeLimit (lookup "timeout_sec" fields) ∧
        OptionalMap AgentReads (lookup "agent" fields) ∧
        OptionalMap ContextFields (lookup "context" fields))
      { stepOf fields with name } := by
  unfold Document.readStepFields
  refine Gives.congr ((Gives.forIn fun field => require_gives _ _ _).seq <|
    (require_gives _ _ _).seq <| (readAgent_gives _ _ _).bind fun agent =>
    (readContext_gives _ _ _).bind fun context => Gives.pure _) ?_ ?_
  · refine and_congr (by simp only [isOptionalText_iff]) (and_congr ?_ (by rw [and_true]))
    split
    · rename_i hnull
      simp [TimeLimit, hnull]
    · rename_i hnull
      have hne : lookup "timeout_sec" fields ≠ .null := hnull
      simp [TimeLimit, hne, isNumber_iff, isPositive_iff]
  · rintro ⟨htexts, -⟩
    have hcommand := (htexts "command" (by simp)).optionalText_eq
    have hprompt := (htexts "prompt" (by simp)).optionalText_eq
    have honSuccess := (htexts "on_success" (by simp)).optionalText_eq
    simp only [stepOf, hcommand, hprompt, honSuccess]

theorem named_gives (path : String) (index : Nat) {name : String}
    (hname : OptionalText (lookup "name" fields))
    (hgiven : (text? (lookup "name" fields)).getD "" = name) :
    Gives (Document.readStep.named path index name fields) (StepReads fields)
      (some (stepOf fields)) := by
  have hstep : { stepOf fields with name } = stepOf fields := by
    rw [← hgiven]
    rfl
  unfold Document.readStep.named
  dsimp only
  suffices Gives _ (Keys _ fields ∧ OptionalText (lookup "type" fields) ∧
      (∀ field ∈ ["command", "prompt", "on_success"], OptionalText (lookup field fields)) ∧
      TimeLimit (lookup "timeout_sec" fields) ∧ OptionalMap AgentReads (lookup "agent" fields) ∧
      OptionalMap ContextFields (lookup "context" fields)) (some (stepOf fields)) by
    refine this.congr ?_ fun _ => rfl
    constructor
    · rintro ⟨hkeys, htype, htexts, htimeout, hagent, hcontext⟩
      exact ⟨hkeys, hname, htype, htexts, htimeout, hagent, hcontext⟩
    · rintro ⟨hkeys, -, htype, htexts, htimeout, hagent, hcontext⟩
      exact ⟨hkeys, htype, htexts, htimeout, hagent, hcontext⟩
  refine .seq (noteUnknown_gives _ _ _ _) ?_
  split
  · rename_i htype
    rw [isOptionalText_iff] at htype
    refine ((readStepFields_gives name _ _ _).map some).congr ?_ fun _ => by rw [hstep]
    simp only [htype, true_and]
  · rename_i htype
    rw [isOptionalText_iff] at htype
    exact note_fails (fun h => htype h.1) _ _ _ _

theorem readStep_gives (path : String) (index : Nat) (v : Value) :
    Gives (Document.readStep path index v) (Map StepReads v) (some (stepOf (fieldsOf v))) := by
  unfold Document.readStep
  split
  · rename_i fields hopened
    rw [fieldsOf_eq hopened, map_iff hopened]
    split
    · rename_i hnull
      exact named_gives _ _ (.inl hnull) (by simp [hnull, text?])
    · rename_i name hname
      exact named_gives _ _ (.inr ⟨name, hname⟩) (by simp [hname, text?])
    · rename_i hnull hstr
      refine note_fails (fun hreads => ?_) _ _ _ _
      rcases hreads.name with hname | ⟨name, hname⟩
      · exact hnull hname
      · exact hstr name hname
  · rename_i hmap
    exact note_fails (not_map hmap) _ _ _ _

theorem readSteps_gives (path : String) (index : Nat) (items : List Value) :
    Gives (Document.readSteps path index items) (∀ v ∈ items, Map StepReads v)
      (items.map fun v => some (stepOf (fieldsOf v))) := by
  induction items generalizing index with
  | nil => exact (Gives.pure _).congr (by simp) fun _ => rfl
  | cons v items ih =>
    refine ((readStep_gives _ index v).bind fun s => (ih (index + 1)).bind fun found =>
      .pure (s :: found)).congr ?_ fun _ => rfl
    simp

theorem mapM_id_map_some {α β : Type} (xs : List α) (f : α → β) :
    (xs.map fun x => some (f x)).mapM id = some (xs.map f) := by
  induction xs with
  | nil => rfl
  | cons x xs ih =>
    rw [List.map_cons, List.mapM_cons, ih]
    rfl

theorem readWorkflow_gives (name : String) (v : Value) :
    Gives (Document.readWorkflow name v) (Map WorkflowReads v)
      (some (workflowOf name (fieldsOf v))) := by
  unfold Document.readWorkflow
  split
  · rename_i fields hopened
    rw [fieldsOf_eq hopened, map_iff hopened]
    dsimp only
    suffices Gives _ (Keys ["description", "steps"] fields ∧
        isOptionalText (lookup "description" fields) = true ∧ ∃ items,
          (lookup "steps" fields).opened = .list items ∧ ∀ v ∈ items, Map StepReads v)
        (some (workflowOf name fields)) by
      refine this.congr ?_ fun _ => rfl
      rw [isOptionalText_iff]
      constructor
      · rintro ⟨hkeys, hdescription, hsteps⟩
        exact ⟨hkeys, hdescription, hsteps⟩
      · rintro ⟨hkeys, hdescription, hsteps⟩
        exact ⟨hkeys, hdescription, hsteps⟩
    refine .seq (noteUnknown_gives _ _ _ _) (.seq (require_gives _ _ _) ?_)
    split
    · rename_i items hitems
      refine (Gives.bind (S := fun _ => True)
        (g := fun found => (found.mapM id).map fun steps =>
          Workflow.mk name steps (text? (lookup "description" fields)))
        (readSteps_gives _ 0 items) fun found => ?_).congr (by simp [hitems]) fun _ => ?_
      · cases found.mapM id with
        | none => exact .pure _
        | some steps => exact .pure _
      · rw [mapM_id_map_some, workflowOf, stepsOf, itemsOf_eq hitems]
        rfl
    · rename_i hlist
      exact note_fails (fun ⟨items, hitems, _⟩ => hlist items hitems) _ _ _ _
  · rename_i hmap
    exact note_fails (not_map hmap) _ _ _ _

end Schema

end StepFlow
