import StepFlow.Proofs.Settings.Reading
import StepFlow.Proofs.Workflow.Conformance

/-!
# One form for the choice of an agent

An agent is chosen in two places: in a step of a workflow, and in the settings for all steps that
choose none. The two are read in different ways. A step is read to its end, with an error noted for
everything that does not fit, and the type of its agent is made into a text whatever it is; it is
looked for among the known ones only when the whole workflow is checked. Settings are refused at the
first thing that does not fit, and the type is looked for as it stands.

Both come to the same, since a value whose text is the name of an agent is a string. There is one
thing that settings do not mind, and this is a field that nobody knows.

## Main results

* `Settings.readTemperature_eq_ok_iff`, `Settings.readAgent_eq_ok_iff` — what settings ask for, in
  terms of the schema of workflow documents
* `AgentChoice.read_alike` — a choice is read from a step just if it is read from settings
-/

namespace StepFlow

open Value (lookup)
open Schema (AgentFields Keys Temperature agentOf given? map? textIn)

variable {v : Value} {fields : List (Value × Value)} {choice : AgentChoice}

/-! ### What settings ask for -/

namespace Settings

theorem readTemperature_of_number (h : Schema.Number v) :
    readTemperature v =
      if Document.isFraction v then .ok (Schema.numberOf v) else refuse .temperatureOutOfRange := by
  obtain ⟨n, rfl⟩ | ⟨x, rfl⟩ := h
  all_goals
    unfold readTemperature Document.isFraction
    dsimp only
    generalize (Value.int 0).compareNumbers? _ = lower, Value.compareNumbers? _ (.int 1) = upper
    rcases lower with _ | _ | _ | _ <;> rcases upper with _ | _ | _ | _ <;> rfl

/-- The temperatures of settings are those of steps, and they come to the same doubles. -/
theorem readTemperature_eq_ok_iff {t : Value} :
    readTemperature v = .ok t ↔ Temperature v ∧ t = Schema.numberOf v := by
  by_cases hnumber : Schema.Number v
  · have hnull : v ≠ .null := by
      rintro rfl
      obtain ⟨_, h⟩ | ⟨_, h⟩ := hnumber <;> cases h
    rw [readTemperature_of_number hnumber, Temperature, or_iff_right hnull,
      and_iff_right hnumber, ← Schema.isFraction_iff]
    split
    · rename_i hfraction
      rw [and_iff_right hfraction, Except.ok.injEq, eq_comm]
    · rename_i hfraction
      refine iff_of_false ?_ fun h => hfraction h.1
      rintro ⟨⟩
  · have hor : Temperature v ↔ v = .null := or_iff_left fun h => hnumber h.1
    rw [hor]
    cases v with
    | null => exact ⟨fun h => ⟨rfl, (Except.ok.inj h).symm⟩, fun h => congrArg Except.ok h.2.symm⟩
    | int n => exact absurd (.inl ⟨n, rfl⟩) hnumber
    | double x => exact absurd (.inr ⟨x, rfl⟩) hnumber
    | _ =>
      refine iff_of_false ?_ ?_
      · rintro ⟨⟩
      · rintro ⟨⟨⟩, -⟩

/-- What is made of a choice whose type is known. -/
theorem readAgent_of_type {type : AgentType} (htype : lookup "type" fields = .str type.name) :
    readAgent (.map fields) = .ok choice ↔ (lookup "model" fields).HasText ∧
      ∃ t, readTemperature (lookup "temperature" fields) = .ok t ∧
        choice = ⟨type.name, given? textIn (lookup "model" fields), t⟩ := by
  have hknown : (AgentType.ofName? type.name).isSome = true := by cases type <;> rfl
  rw [readAgent]
  dsimp only
  rw [htype, if_pos (by rfl)]
  dsimp only
  rw [if_pos hknown, pure_bind]
  cases readTemperature (lookup "temperature" fields) with
  | error e =>
    refine iff_of_false ?_ ?_
    · rintro ⟨⟩
    · rintro ⟨-, t, ht, -⟩
      cases ht
  | ok t =>
    simp only [bind, Except.bind, Except.ok.injEq, exists_eq_left']
    split
    · rename_i hnull
      rw [hnull, and_iff_right Value.hasText_null]
      exact ⟨fun h => (Except.ok.inj h).symm, fun h => congrArg Except.ok h.symm⟩
    · rename_i hnull
      rw [Schema.given?_of_ne hnull, Value.HasText, textIn]
      cases (lookup "model" fields).text with
      | ok text =>
        rw [and_iff_right ⟨text, rfl⟩]
        exact ⟨fun h => (Except.ok.inj h).symm, fun h => congrArg Except.ok h.symm⟩
      | error e =>
        refine iff_of_false ?_ ?_
        · rintro ⟨⟩
        · rintro ⟨⟨_, ⟨⟩⟩, -⟩

/-- A type that is not known is refused, or it cannot even be looked for. -/
theorem type_of_readAgent (h : readAgent (.map fields) = .ok choice) :
    ∃ type : AgentType, lookup "type" fields = .str type.name := by
  rw [readAgent] at h
  dsimp only at h
  split at h
  · split at h
    · rename_i name hname
      split at h
      · rename_i hknown
        obtain ⟨type, htype⟩ := Option.isSome_iff_exists.mp hknown
        exact ⟨type, hname.trans (congrArg Value.str (AgentType.ofName?_eq_some_iff.mp htype))⟩
      · cases h
    · obtain ⟨_, -, h⟩ := exists_of_bind_ok h
      cases h
  · cases h

/-- **What settings ask of the choice of an agent**: a known type, a model that has a text, and the
temperature of a step. -/
theorem readAgent_eq_ok_iff :
    readAgent (.map fields) = .ok choice ↔
      ((∃ type : AgentType, lookup "type" fields = .str type.name) ∧
        (lookup "model" fields).HasText ∧ Temperature (lookup "temperature" fields)) ∧
          choice = Schema.agentOf fields := by
  constructor
  · intro hread
    obtain ⟨type, htype⟩ := type_of_readAgent hread
    obtain ⟨hmodel, t, ht, rfl⟩ := (readAgent_of_type htype).mp hread
    obtain ⟨htemperature, rfl⟩ := readTemperature_eq_ok_iff.mp ht
    refine ⟨⟨⟨type, htype⟩, hmodel, htemperature⟩, ?_⟩
    rw [Schema.agentOf, htype]
    rfl
  · rintro ⟨⟨⟨type, htype⟩, hmodel, htemperature⟩, rfl⟩
    refine (readAgent_of_type htype).mpr
      ⟨hmodel, _, readTemperature_eq_ok_iff.mpr ⟨htemperature, rfl⟩, ?_⟩
    rw [Schema.agentOf, htype]
    rfl

end Settings

/-! ### Two readers -/

namespace AgentChoice

/-- A reader that comes to a value has noted nothing, whatever has been noted before. -/
theorem run_eq_iff_clean {α : Type} {a : Reading α} (h : Reading.Grows a) {u : α}
    {noted : List DefinitionError} : a.run noted = (.ok u, noted) ↔ Reading.Clean a u := by
  rw [h noted, Reading.Clean, Prod.mk.injEq, Prod.ext_iff, List.append_right_eq_self]

/-- What a step asks for when the type of its agent turns out to be known. -/
theorem read_iff (h : v.Short) (path label : String) (noted : List DefinitionError) :
    ((Document.readAgent path label v).run noted = (.ok (some choice), noted) ∧
        ∃ type : AgentType, choice.type = type.name) ↔
      ∃ fields, v.opened = .map fields ∧ AgentFields fields ∧ choice = Schema.agentOf fields := by
  have hgives := Schema.readAgent_gives path label v
  rw [run_eq_iff_clean hgives.grows, hgives.clean_iff]
  constructor
  · rintro ⟨⟨hreads, hchoice⟩, type, htype⟩
    obtain hnull | ⟨fields, hfields, hreads⟩ := hreads
    · simp [map?, hnull] at hchoice
    · rw [Schema.map?_eq_some Schema.agentOf hfields, Option.some.injEq] at hchoice
      subst hchoice
      have hshort : (Value.map fields).Short := hfields ▸ h.opened
      exact ⟨fields, hfields, (Schema.agentFields_iff hshort).mpr
        ⟨hreads, type, AgentType.ofName?_eq_some_iff.mpr htype⟩, rfl⟩
  · rintro ⟨fields, hfields, hagent, rfl⟩
    have hshort : (Value.map fields).Short := hfields ▸ h.opened
    obtain ⟨hreads, type, htype⟩ := (Schema.agentFields_iff hshort).mp hagent
    exact ⟨⟨.inr ⟨fields, hfields, hreads⟩, (Schema.map?_eq_some Schema.agentOf hfields).symm⟩,
      type, AgentType.ofName?_eq_some_iff.mp htype⟩

/-- **A choice is read from a step just if it is read from settings**, unless there is a field that
nobody knows. -/
theorem read_alike (h : v.Short) (path label : String) (noted : List DefinitionError)
    (choice : AgentChoice) :
    ((Document.readAgent path label v).run noted = (.ok (some choice), noted) ∧
        ∃ type : AgentType, choice.type = type.name) ↔
      (∃ fields, v.opened = .map fields ∧ Keys ["type", "model", "temperature"] fields) ∧
        Settings.readAgent v.opened = .ok choice := by
  rw [read_iff h]
  constructor
  · rintro ⟨fields, hfields, ⟨hkeys, htype, hmodel, htemperature⟩, hchoice⟩
    rw [hfields]
    exact ⟨⟨fields, rfl, hkeys⟩,
      Settings.readAgent_eq_ok_iff.mpr ⟨⟨htype, hmodel, htemperature⟩, hchoice⟩⟩
  · rintro ⟨⟨fields, hfields, hkeys⟩, hread⟩
    rw [hfields] at hread
    obtain ⟨⟨htype, hmodel, htemperature⟩, hchoice⟩ := Settings.readAgent_eq_ok_iff.mp hread
    exact ⟨fields, hfields, ⟨hkeys, htype, hmodel, htemperature⟩, hchoice⟩

/-- A mapping that has itself as the model. -/
def selfNamed : Value :=
  .knot 0 (.map [(.str "type", .str "openai"), (.str "temperature", .null), (.str "model", .loop 0)])

theorem short_selfNamed : selfNamed.Short := by
  have hloop : (Value.loop 0).Short := .intro nofun nofun
  refine .intro nofun (List.forall_mem_singleton.mpr ?_)
  simp [hloop]

/-- The model of this mapping is the text that shows it. -/
theorem read_alike_selfNamed :
    selfNamed.Short ∧
      (∃ fields, selfNamed.opened = .map fields ∧ Keys ["type", "model", "temperature"] fields) ∧
        Settings.readAgent selfNamed.opened = .ok
          ⟨"openai", some "\x7b'type': 'openai', 'temperature': None, 'model': \x7b...\x7d\x7d",
            .null⟩ :=
  ⟨short_selfNamed, (read_alike short_selfNamed "agent" "review" [] _).mp ⟨rfl, .openai, rfl⟩⟩

end AgentChoice

end StepFlow
