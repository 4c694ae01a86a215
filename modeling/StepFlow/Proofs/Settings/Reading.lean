import StepFlow.Proofs.Activity
import StepFlow.Proofs.Value.Text
import StepFlow.Settings.Document
import Mathlib.Algebra.Order.Ring.Int
import Mathlib.Order.Compare

/-!
# What settings in a mapping come to

Settings are read part by part: the default agent, the keys of the providers, the log level, the
directory of run logs, and at last texts are made of the keys. Every part gives a value that is in
order, or it refuses the settings. What comes after a part that is refused is not looked at.

There are values, though, of which reading makes neither. A type that is a list or a mapping cannot
be looked for among the known types; unknown keys of different kinds have no order in which a message
could show them; and a value has no text if an integer in it has too many digits or if it lies too
deep. `Settings.EntriesEscape` says where these matter.

`Settings.Answers` says of a part what it gives and just when a fault escapes from it. It has a rule
for each way in which parts are put together, so that the exact cases of the whole come from those of
the parts.

## Main definitions

* `Double.InUnit` — a double whose exact value is a number from zero to one
* `Settings.Sound` — settings as they should be
* `Settings.Answers` — a value, a refusal, or a fault of another kind
* `Settings.EntriesEscape` — settings in a mapping are neither read nor refused

## Main results

* `Settings.ofEntries_answers` — what settings in a mapping come to
-/

namespace StepFlow

/-! ### Numbers from zero to one -/

namespace Double

variable {x : Double} {num : Int} {den : Nat}

/-- A double whose exact value is a number from zero to one. -/
def InUnit (x : Double) : Prop :=
  ∃ num den, x.fraction? = some (num, den) ∧ 0 ≤ num ∧ num ≤ (den : Int)

theorem fraction?_den_pos (h : x.fraction? = some (num, den)) : 0 < den := by
  cases x with
  | finite s m e =>
    simp only [fraction?, Option.some.injEq] at h
    split at h
    · cases h
      exact Nat.one_pos
    · cases h
      exact Nat.two_pow_pos _
  | infinite s => cases h
  | nan => cases h

theorem compareInt?_eq (h : x.fraction? = some (num, den)) (n : Int) :
    x.compareInt? n = some (compare num (n * den)) := by
  cases x with
  | finite s m e => simp only [compareInt?, h, Option.map_some]
  | infinite s => cases h
  | nan => cases h

end Double

/-- A number from zero to one. -/
def Value.InUnit : Value → Prop
  | .int n => 0 ≤ n ∧ n ≤ 1
  | .double x => x.InUnit
  | _ => False

namespace Settings

variable {α β : Type}

/-! ### Answers -/

/-- What is read is a value of which `Q` holds, or it is refused as settings; it is a fault of
another kind just when `E` says so. -/
structure Answers (r : Except Fault α) (E : Fault → Prop) (Q : α → Prop) : Prop where
  value : ∀ v, r = .ok v → Q v
  escapes_iff : ∀ e, E e ↔ r = .error e ∧ ∀ f, e ≠ .settings f

namespace Answers

variable {r : Except Fault α} {E : Fault → Prop} {Q : α → Prop}

theorem ok {v : α} (h : Q v) : Answers (.ok v) (fun _ => False) Q where
  value _ hv := Except.ok.inj hv ▸ h
  escapes_iff _ := iff_of_false id nofun

theorem refuse (f : SettingsFault) : Answers (Settings.refuse f) (fun _ => False) Q where
  value := nofun
  escapes_iff _ := iff_of_false id fun ⟨he, hf⟩ => hf f (Except.error.inj he).symm

theorem error {e : Fault} (h : ∀ f, e ≠ .settings f) : Answers (.error e) (· = e) Q where
  value := nofun
  escapes_iff e' := by
    constructor
    · rintro rfl
      exact ⟨rfl, h⟩
    · exact fun ⟨he, _⟩ => (Except.error.inj he).symm

theorem congr {E' : Fault → Prop} (h : Answers r E Q) (hE : ∀ e, E e ↔ E' e) : Answers r E' Q where
  value := h.value
  escapes_iff e := (hE e).symm.trans (h.escapes_iff e)

theorem mono {Q' : α → Prop} (h : Answers r E Q) (hQ : ∀ v, r = .ok v → Q v → Q' v) :
    Answers r E Q' where
  value v hv := hQ v hv (h.value v hv)
  escapes_iff := h.escapes_iff

/-- A fault escapes from the first part, or after it from the second one. -/
theorem bind {f : α → Except Fault β} {F : α → Fault → Prop} {R : β → Prop} (h : Answers r E Q)
    (hf : ∀ v, r = .ok v → Q v → Answers (f v) (F v) R) :
    Answers (r >>= f) (fun e => E e ∨ ∃ v, r = .ok v ∧ F v e) R := by
  cases hr : r with
  | error e =>
    refine ⟨nofun, fun e' => ?_⟩
    rw [h.escapes_iff, hr]
    constructor
    · rintro (⟨he, hf⟩ | ⟨v, hv, -⟩)
      · cases he
        exact ⟨rfl, hf⟩
      · cases hv
    · rintro ⟨he, hf⟩
      cases he
      exact .inl ⟨rfl, hf⟩
  | ok v =>
    have hv := hf v hr (h.value v hr)
    refine ⟨hv.value, fun e => ?_⟩
    have hnot : ¬E e := fun he => by
      cases hr.symm.trans ((h.escapes_iff e).mp he).1
    rw [or_iff_right hnot]
    refine Iff.trans ?_ (hv.escapes_iff e)
    constructor
    · rintro ⟨v', hv', he⟩
      cases hv'
      exact he
    · exact fun he => ⟨v, rfl, he⟩

theorem map {f : α → β} {R : β → Prop} (h : Answers r E fun v => R (f v)) :
    Answers (f <$> r) E R := by
  rw [map_eq_pure_bind]
  refine (h.bind fun v _ hv => ok hv).congr fun e => ?_
  exact or_iff_left fun ⟨_, _, hfalse⟩ => hfalse

end Answers

/-- Where there is no text, the fault is none of the settings. -/
theorem text_answers (v : Value) : Answers v.text (v.text = .error ·) fun _ => True where
  value _ _ := trivial
  escapes_iff e := by
    refine (and_iff_left_of_imp ?_).symm
    rintro h f rfl
    rcases Value.text_fails v _ h with ⟨hfault, -⟩ | ⟨hfault, -⟩ <;> cases hfault

/-! ### Temperatures -/

/-- A temperature that has been read: none, or a double from zero to one. -/
def Temperate (v : Value) : Prop := v = .null ∨ ∃ x, v = .double x ∧ x.InUnit

theorem readTemperature_int (n : Int) :
    (0 ≤ n ∧ n ≤ 1 ∧ ∃ x, readTemperature (.int n) = .ok (.double x) ∧ x.InUnit) ∨
      (¬(0 ≤ n ∧ n ≤ 1) ∧ readTemperature (.int n) = refuse .temperatureOutOfRange) := by
  have hlower : (Value.int 0).compareNumbers? (.int n) = some (compare 0 n) := rfl
  have hupper : (Value.int n).compareNumbers? (.int 1) = some (compare n 1) := rfl
  by_cases hunit : 0 ≤ n ∧ n ≤ 1
  · obtain rfl | rfl : n = 0 ∨ n = 1 := by omega
    · exact .inl ⟨by decide, by decide, _, rfl, 0, _, rfl, by decide, by decide⟩
    · exact .inl ⟨by decide, by decide, _, rfl, _, _, rfl, by decide, by decide⟩
  · refine .inr ⟨hunit, ?_⟩
    unfold readTemperature
    dsimp only
    rw [hlower, hupper]
    rcases lt_or_gt_of_ne (show n ≠ 0 by omega) with hn | hn
    · rw [compare_gt_iff_gt.mpr hn]
    · rw [compare_lt_iff_lt.mpr hn, compare_gt_iff_gt.mpr (show 1 < n by omega)]

theorem readTemperature_double (x : Double) :
    (x.InUnit ∧ readTemperature (.double x) = .ok (.double x)) ∨
      (¬x.InUnit ∧ readTemperature (.double x) = refuse .temperatureOutOfRange) := by
  have hlower : (Value.int 0).compareNumbers? (.double x) =
      (x.compareInt? 0).map Ordering.swap := rfl
  have hupper : (Value.double x).compareNumbers? (.int 1) = x.compareInt? 1 := rfl
  unfold readTemperature
  dsimp only
  rw [hlower, hupper]
  cases hfraction : x.fraction? with
  | none =>
    refine .inr ⟨fun ⟨num, den, h, _⟩ => ?_, ?_⟩
    · cases hfraction.symm.trans h
    · cases x with
      | finite s m e => cases hfraction
      | infinite s => cases s <;> rfl
      | nan => rfl
  | some f =>
    obtain ⟨num, den⟩ := f
    have hpos : (0 : Int) < den := Int.natCast_pos.mpr (Double.fraction?_den_pos hfraction)
    have hunit : x.InUnit ↔ 0 ≤ num ∧ num ≤ (den : Int) := by
      constructor
      · rintro ⟨num', den', h, hnum⟩
        cases hfraction.symm.trans h
        exact hnum
      · exact fun h => ⟨num, den, hfraction, h⟩
    rw [hunit, Double.compareInt?_eq hfraction, Double.compareInt?_eq hfraction, zero_mul, one_mul,
      Option.map_some]
    rcases lt_trichotomy num 0 with hnum | rfl | hnum
    · rw [compare_lt_iff_lt.mpr hnum]
      exact .inr ⟨by omega, rfl⟩
    · rw [compare_lt_iff_lt.mpr hpos]
      exact .inl ⟨by omega, rfl⟩
    · rw [compare_gt_iff_gt.mpr hnum]
      rcases lt_trichotomy num den with hden | hden | hden
      · rw [compare_lt_iff_lt.mpr hden]
        exact .inl ⟨by omega, rfl⟩
      · rw [hden, compare_eq_iff_eq.mpr rfl]
        exact .inl ⟨by omega, rfl⟩
      · rw [compare_gt_iff_gt.mpr hden]
        exact .inr ⟨by omega, rfl⟩

/-- What becomes of a temperature. -/
theorem readTemperature_cases (v : Value) :
    ((v = .null ∨ v.InUnit) ∧ ∃ t, readTemperature v = .ok t ∧ Temperate t) ∨
      (¬(v = .null ∨ v.InUnit) ∧ ∃ f, readTemperature v = refuse f) := by
  cases v with
  | null => exact .inl ⟨.inl rfl, .null, rfl, .inl rfl⟩
  | int n =>
    rcases readTemperature_int n with ⟨h₀, h₁, x, hread, hx⟩ | ⟨hunit, hread⟩
    · exact .inl ⟨.inr ⟨h₀, h₁⟩, _, hread, .inr ⟨x, rfl, hx⟩⟩
    · exact .inr ⟨fun h => h.elim nofun hunit, _, hread⟩
  | double x =>
    rcases readTemperature_double x with ⟨hx, hread⟩ | ⟨hunit, hread⟩
    · exact .inl ⟨.inr hx, _, hread, .inr ⟨x, rfl, hx⟩⟩
    · exact .inr ⟨fun h => h.elim nofun hunit, _, hread⟩
  | _ => exact .inr ⟨fun h => h.elim nofun id, _, rfl⟩

theorem readTemperature_answers (v : Value) :
    Answers (readTemperature v) (fun _ => False) Temperate := by
  rcases readTemperature_cases v with ⟨-, t, hread, ht⟩ | ⟨-, f, hread⟩
  · rw [hread]
    exact .ok ht
  · rw [hread]
    exact .refuse f

/-- A temperature is read just if it is absent or a number from zero to one. -/
theorem readTemperature_ok_iff {v : Value} :
    (∃ t, readTemperature v = .ok t) ↔ v = .null ∨ v.InUnit := by
  rcases readTemperature_cases v with ⟨hunit, t, hread, -⟩ | ⟨hunit, f, hread⟩
  · exact iff_of_true ⟨t, hread⟩ hunit
  · refine iff_of_false ?_ hunit
    rintro ⟨t, ht⟩
    cases hread.symm.trans ht

/-! ### The default agent -/

/-- A default agent of a known type, with a temperature that is in the range. -/
structure SoundAgent (a : AgentChoice) : Prop where
  type : ∃ type, AgentType.ofName? a.type = some type
  temperature : Temperate a.temperature

/-- The fault of a type that cannot be looked for among the known ones. -/
def unsearchable (type : Value) : Fault := .wrongKind s!"unhashable type: '{type.kind}'"

/-- A default agent is neither read nor refused. -/
inductive AgentEscapes : Value → Fault → Prop
  /-- The type cannot be looked for among the known ones. -/
  | unhashable {fields} : (Value.lookup "type" fields).isSearchable = false →
      AgentEscapes (.map fields) (unsearchable (Value.lookup "type" fields))
  /-- The type is none, and it cannot be shown in the message that says so. -/
  | type {fields e} : (Value.lookup "type" fields).isSearchable = true →
      (Value.lookup "type" fields).text = .error e → AgentEscapes (.map fields) e
  /-- No text can be made of the model. -/
  | model {fields name type e} : Value.lookup "type" fields = .str name →
      AgentType.ofName? name = some type →
      (Value.lookup "temperature" fields = .null ∨ (Value.lookup "temperature" fields).InUnit) →
      (Value.lookup "model" fields).text = .error e → AgentEscapes (.map fields) e

/-! Which of them it is depends on the type, and at a known type on the model. -/

theorem agentEscapes_unhashable_iff {fields : List (Value × Value)} {e : Fault}
    (h : (Value.lookup "type" fields).isSearchable = false) :
    AgentEscapes (.map fields) e ↔ e = unsearchable (Value.lookup "type" fields) := by
  constructor
  · intro he
    cases he with
    | unhashable _ => rfl
    | type hsearchable _ => cases hsearchable.symm.trans h
    | model hname _ _ _ =>
      rw [hname] at h
      cases h
  · rintro rfl
    exact .unhashable h

theorem agentEscapes_other_iff {fields : List (Value × Value)} {e : Fault}
    (h : (Value.lookup "type" fields).isSearchable = true)
    (hother : ∀ name, Value.lookup "type" fields ≠ .str name) :
    AgentEscapes (.map fields) e ↔ (Value.lookup "type" fields).text = .error e := by
  refine ⟨fun he => ?_, .type h⟩
  cases he with
  | unhashable hnot => cases h.symm.trans hnot
  | type _ htext => exact htext
  | model hname _ _ _ => exact absurd hname (hother _)

theorem agentEscapes_named_iff {fields : List (Value × Value)} {name : String} {e : Fault}
    (h : Value.lookup "type" fields = .str name) :
    AgentEscapes (.map fields) e ↔ (∃ type, AgentType.ofName? name = some type) ∧
      (Value.lookup "temperature" fields = .null ∨ (Value.lookup "temperature" fields).InUnit) ∧
      (Value.lookup "model" fields).text = .error e := by
  constructor
  · intro he
    cases he with
    | unhashable hnot =>
      rw [h] at hnot
      cases hnot
    | type _ htext => exact absurd ⟨e, h ▸ htext⟩ (Value.not_unwritable_str name)
    | model hname htype htemperature hmodel =>
      cases h.symm.trans hname
      exact ⟨⟨_, htype⟩, htemperature, hmodel⟩
  · rintro ⟨⟨type, htype⟩, htemperature, hmodel⟩
    exact .model h htype htemperature hmodel

theorem not_agentEscapes {v : Value} {e : Fault} (h : ∀ fields, v ≠ .map fields) :
    ¬AgentEscapes v e := by
  intro he
  cases he with
  | unhashable => exact h _ rfl
  | type => exact h _ rfl
  | model => exact h _ rfl

/-- The temperature and the model of an agent whose type is known are read. -/
theorem readChoice_answers {name : String} {type : AgentType}
    (h : AgentType.ofName? name = some type) (temperature model : Value) :
    Answers (do
        let temperature ← readTemperature temperature
        match model with
          | .null => do
            let model ← pure none
            return { type := name, model, temperature }
          | v => do
            let model ← some <$> v.text
            return { type := name, model, temperature } : Except Fault AgentChoice)
      (fun e => (temperature = .null ∨ temperature.InUnit) ∧ model.text = .error e)
      SoundAgent := by
  have hsound {t : Value} (ht : Temperate t) (model : Option String) :
      SoundAgent { type := name, model, temperature := t } := ⟨⟨type, h⟩, ht⟩
  have hmodel {t : Value} (ht : Temperate t) :
      Answers (match model with
          | .null => do
            let model ← pure none
            return { type := name, model, temperature := t }
          | v => do
            let model ← some <$> v.text
            return { type := name, model, temperature := t } : Except Fault AgentChoice)
        (model.text = .error ·) SoundAgent := by
    split
    · exact (Answers.ok (hsound ht none)).congr fun e =>
        iff_of_false id fun h => Value.not_unwritable_null ⟨e, h⟩
    · refine (Answers.bind (Q := fun _ => True) (text_answers model).map fun model _ _ =>
        .ok (hsound ht model)).congr fun e => ?_
      exact or_iff_left fun ⟨_, _, hfalse⟩ => hfalse
  refine ((readTemperature_answers temperature).bind fun t _ ht => hmodel ht).congr fun e => ?_
  rw [false_or, exists_and_right, readTemperature_ok_iff]

theorem readAgent_answers (v : Value) : Answers (readAgent v) (AgentEscapes v) SoundAgent := by
  unfold readAgent
  split
  · rename_i fields
    dsimp only
    split
    · rename_i hsearchable
      split
      · rename_i name hname
        split
        · rename_i hknown
          obtain ⟨type, htype⟩ := Option.isSome_iff_exists.mp hknown
          rw [pure_bind]
          exact (readChoice_answers htype _ _).congr fun e =>
            ((agentEscapes_named_iff hname).trans (and_iff_right ⟨type, htype⟩)).symm
        · rename_i hunknown
          refine (Answers.refuse (.unknownAgent name)).congr fun e => iff_of_false id fun he => ?_
          exact hunknown (Option.isSome_iff_exists.mpr ((agentEscapes_named_iff hname).mp he).1)
      · rename_i hother
        refine ((text_answers _).bind fun text _ _ => .refuse (.unknownAgent text)).congr fun e => ?_
        rw [agentEscapes_other_iff hsearchable hother]
        exact or_iff_left fun ⟨_, _, hfalse⟩ => hfalse
    · rename_i hsearchable
      change Answers (.error (unsearchable (Value.lookup "type" fields))) _ _
      refine (Answers.error fun f hf => by cases hf).congr fun e => ?_
      exact (agentEscapes_unhashable_iff (Bool.eq_false_of_not_eq_true hsearchable)).symm
  · rename_i hmap
    exact (Answers.refuse .agentNotMapping).congr fun e =>
      iff_of_false id (not_agentEscapes hmap)

/-! ### Keys of providers -/

/-- A key that is the name of a provider. -/
def IsProvider (k : Value) : Prop := ∃ name, k = .str name ∧ (keyVariables.get? name).isSome

/-- Two keys have an order, or they are both numbers or the same. -/
def Comparable (x y : Value) : Prop :=
  x.sameKey y = true ∨ (compareKeys? x y).isSome = true ∨ isNumeric x = true ∧ isNumeric y = true

/-- A mapping has a key that is no provider. -/
def HasUnknown (entries : List (Value × Value)) (k : Value) : Prop :=
  k ∈ entries.map (·.1) ∧ ¬IsProvider k

/-- The keys of a mapping that are no providers. -/
def unknownKeys (entries : List (Value × Value)) : List Value :=
  (entries.map (·.1)).filter fun
    | .str s => (keyVariables.get? s).isNone
    | _ => true

theorem mem_unknownKeys {entries : List (Value × Value)} {k : Value} :
    k ∈ unknownKeys entries ↔ HasUnknown entries k := by
  rw [unknownKeys, List.mem_filter, HasUnknown]
  refine and_congr_right fun _ => ?_
  cases k <;> simp [IsProvider]

/-- Keys of providers are neither read nor refused. -/
inductive KeysEscape : Value → Fault → Prop
  /-- Two keys that are no providers have no order. -/
  | order {entries x y} : HasUnknown entries x → HasUnknown entries y → ¬Comparable x y →
      KeysEscape (.map entries) (.wrongKind "keys of different kinds have no order")
  /-- The keys that are no providers cannot be shown in the message that says so. -/
  | text {entries sorted e} : sortedKeys (unknownKeys entries) = .ok sorted →
      (Value.list sorted).text = .error e → KeysEscape (.map entries) e

/-- Keys are sorted just if all of them can be compared with one another. -/
theorem sortedKeys_cases (keys : List Value) :
    ((∀ x ∈ keys, ∀ y ∈ keys, Comparable x y) ∧
        ∃ sorted, sortedKeys keys = .ok sorted ∧ sorted.Perm keys) ∨
      ((∃ x ∈ keys, ∃ y ∈ keys, ¬Comparable x y) ∧
        sortedKeys keys = .error (.wrongKind "keys of different kinds have no order")) := by
  unfold sortedKeys
  dsimp only
  split
  · rename_i hall
    refine .inl ⟨fun x hx y hy => ?_, _, rfl, List.mergeSort_perm _ _⟩
    have hxy := List.all_eq_true.mp (List.all_eq_true.mp hall x hx) y hy
    simpa [Comparable, or_assoc] using hxy
  · rename_i hall
    refine .inr ⟨?_, rfl⟩
    by_contra hnone
    push Not at hnone
    refine hall (List.all_eq_true.mpr fun x hx => List.all_eq_true.mpr fun y hy => ?_)
    simpa [Comparable, or_assoc] using hnone x hx y hy

/-- Unknown keys are refused, if they can be shown in order. -/
theorem refuseKeys_answers {entries : List (Value × Value)} {Q : List (Value × Value) → Prop} :
    Answers (do
        let text ← (Value.list (← sortedKeys (unknownKeys entries))).text
        refuse (.unknownKeys text))
      (KeysEscape (.map entries)) Q := by
  rcases sortedKeys_cases (unknownKeys entries) with
    ⟨hall, sorted, hsorted, -⟩ | ⟨⟨x, hx, y, hy, hxy⟩, herror⟩
  · rw [hsorted]
    refine ((text_answers (.list sorted)).bind fun text _ _ =>
      .refuse (.unknownKeys text)).congr fun e => ⟨?_, ?_⟩
    · rintro (htext | ⟨_, _, hfalse⟩)
      · exact .text hsorted htext
      · exact hfalse.elim
    · intro he
      cases he with
      | order hx hy hxy =>
        exact absurd (hall _ (mem_unknownKeys.mpr hx) _ (mem_unknownKeys.mpr hy)) hxy
      | text hsorted' htext =>
        cases hsorted.symm.trans hsorted'
        exact .inl htext
  · rw [herror]
    refine (Answers.error fun f hf => by cases hf).congr fun e => ⟨?_, ?_⟩
    · rintro rfl
      exact .order (mem_unknownKeys.mp hx) (mem_unknownKeys.mp hy) hxy
    · intro he
      cases he with
      | order => rfl
      | text hsorted _ => cases herror.symm.trans hsorted

theorem KeysEscape.exists_unknown {v : Value} {e : Fault} (h : KeysEscape v e) :
    ∃ entries, v = .map entries ∧ unknownKeys entries ≠ [] := by
  cases h with
  | order hx => exact ⟨_, rfl, List.ne_nil_of_mem (mem_unknownKeys.mpr hx)⟩
  | text hsorted htext =>
    refine ⟨_, rfl, fun hnone => ?_⟩
    have hnil : sortedKeys [] = .ok [] := by simp [sortedKeys, pure, Except.pure]
    rw [hnone, hnil] at hsorted
    cases hsorted
    cases htext

theorem readKeys_answers (v : Value) :
    Answers (readKeys v) (KeysEscape v) fun entries =>
      (entries = [] ∨ v = .map entries) ∧ ∀ p ∈ entries, IsProvider p.1 := by
  unfold readKeys
  split
  · rename_i hfalse
    refine (Answers.ok ⟨.inl rfl, nofun⟩).congr fun e => iff_of_false id fun he => ?_
    obtain ⟨entries, rfl, hunknown⟩ := he.exists_unknown
    cases entries with
    | nil => exact hunknown rfl
    | cons p entries => cases hfalse
  · split
    · rename_i entries _
      dsimp only
      generalize hunknown : List.filter _ (entries.map (·.1)) = unknown
      obtain rfl : unknown = unknownKeys entries := by
        rw [← hunknown, unknownKeys]
        congr 1
        funext k
        cases k <;> simp
      split
      · rename_i hempty
        have hknown (k : Value) : ¬HasUnknown entries k := by
          rw [← mem_unknownKeys, List.isEmpty_iff.mp hempty]
          exact List.not_mem_nil
        have hall (p : Value × Value) (hp : p ∈ entries) : IsProvider p.1 := by
          by_contra hp'
          exact hknown p.1 ⟨List.mem_map_of_mem hp, hp'⟩
        refine (Answers.ok ⟨.inr rfl, hall⟩).congr fun e => iff_of_false id fun he => ?_
        obtain ⟨entries, heq, hsome⟩ := he.exists_unknown
        cases heq
        exact hsome (List.isEmpty_iff.mp hempty)
      · exact refuseKeys_answers
    · rename_i hmap
      refine (Answers.refuse .keysNotMapping).congr fun e => iff_of_false id fun he => ?_
      obtain ⟨entries, heq, -⟩ := he.exists_unknown
      exact hmap entries heq

/-- No text can be made of the key of a provider, while there are those of the keys before it. -/
def KeyTextEscapes (entries : List (Value × Value)) (e : Fault) : Prop :=
  ∃ before p after, entries = before ++ p :: after ∧ (∀ q ∈ before, ¬q.2.Unwritable) ∧
    p.2.text = .error e

theorem keyTextEscapes_cons {p : Value × Value} {rest : List (Value × Value)} {e : Fault} :
    KeyTextEscapes (p :: rest) e ↔
      p.2.text = .error e ∨ ¬p.2.Unwritable ∧ KeyTextEscapes rest e := by
  constructor
  · rintro ⟨_ | ⟨q, before⟩, r, after, heq, hbefore, hr⟩
    · cases heq
      exact .inl hr
    · cases heq
      obtain ⟨hq, hbefore⟩ := List.forall_mem_cons.mp hbefore
      exact .inr ⟨hq, before, r, after, rfl, hbefore, hr⟩
  · rintro (h | ⟨hp, before, r, after, rfl, hbefore, hr⟩)
    · exact ⟨[], p, rest, rfl, nofun, h⟩
    · exact ⟨p :: before, r, after, rfl, List.forall_mem_cons.mpr ⟨hp, hbefore⟩, hr⟩

/-- The keys of providers as texts. -/
theorem keyTexts_answers {entries : List (Value × Value)} (h : ∀ p ∈ entries, IsProvider p.1) :
    Answers (keyTexts entries) (KeyTextEscapes entries)
      fun keys => ∀ k ∈ keys, (keyVariables.get? k.1).isSome := by
  induction entries with
  | nil =>
    exact (Answers.ok nofun).congr fun e => iff_of_false id fun ⟨_, _, _, hnil, _⟩ =>
      List.append_ne_nil_of_right_ne_nil _ (List.cons_ne_nil _ _) hnil.symm
  | cons p rest ih =>
    obtain ⟨k, v⟩ := p
    obtain ⟨⟨name, hk, hname⟩, hrest⟩ := List.forall_mem_cons.mp h
    dsimp only at hk
    subst hk
    by_cases hnull : v = .null
    · subst hnull
      rw [keyTexts]
      refine (ih hrest).congr fun e => ?_
      rw [keyTextEscapes_cons, or_iff_right fun hnone => Value.not_unwritable_null ⟨e, hnone⟩,
        and_iff_right Value.not_unwritable_null]
    · rw [keyTexts]
      · refine (Answers.bind (E := fun _ => False) (Q := (· = name)) (.ok rfl)
          fun name' _ hname' => (text_answers v).bind fun text _ _ => (ih hrest).bind
            fun keys _ hkeys => .ok (List.forall_mem_cons.mpr ⟨hname' ▸ hname, hkeys⟩)).congr
              fun e => ?_
        simp only [keyTextEscapes_cons, false_or, Except.ok.injEq, exists_eq_left', and_false,
          exists_false, or_false, exists_and_right, ← Value.hasText_iff, Value.HasText]
      · exact hnull

/-! ### Log levels -/

theorem readLevel_answers (v : Value) :
    Answers (readLevel v) (v.text = .error ·) (· ∈ logLevelNames) := by
  unfold readLevel
  split
  · rename_i level
    have hnot (e : Fault) : ¬(Value.str level).text = .error e :=
      fun h => Value.not_unwritable_str level ⟨e, h⟩
    split
    · rename_i hlevel
      exact (Answers.ok (List.contains_iff_mem.mp hlevel)).congr fun e => iff_of_false id (hnot e)
    · exact (Answers.refuse _).congr fun e => iff_of_false id (hnot e)
  · refine ((text_answers v).bind fun text _ _ => .refuse (.badLevel text)).congr fun e => ?_
    exact or_iff_left fun ⟨_, _, hfalse⟩ => hfalse

theorem readDirectory_answers (v : Value) :
    Answers (readDirectory v) (fun _ => False) fun _ => True := by
  unfold readDirectory
  split
  · exact .ok trivial
  · exact .ok trivial
  · exact .refuse _

/-! ### All of the settings -/

/-- Settings as they should be: the log level is one that there is, there is a default agent of a
known type with a temperature in the range, and keys are those of providers. -/
structure Sound (s : Settings) : Prop where
  level : s.logLevel ∈ logLevelNames
  agent : ∃ a, s.defaultAgent = some a ∧ SoundAgent a
  keys : ∀ k ∈ s.apiKeys, (keyVariables.get? k.1).isSome

/-- What is read of a value that may be missing. -/
def readOr (read : Value → Except Fault α) (default : α) : Option Value → Except Fault α
  | some v => read v
  | none => .ok default

/-- The default agent in a mapping. -/
def agentOf (base : Settings) (entries : List (Value × Value)) : Except Fault (Option AgentChoice) :=
  readOr (some <$> readAgent ·) base.defaultAgent (Value.lookup? "default_agent" entries)

/-- The log level in a mapping. -/
def levelOf (base : Settings) (entries : List (Value × Value)) : Except Fault String :=
  readOr readLevel base.logLevel (Value.lookup? "log_level" entries)

/-- The directory of run logs in a mapping. -/
def directoryOf (base : Settings) (entries : List (Value × Value)) : Except Fault (Option String) :=
  readOr readDirectory base.logDir (Value.lookup? "log_dir" entries)

/-- The parts of settings are read one after the other, and texts are made of the keys at last. -/
theorem ofEntries_eq (base : Settings) (entries : List (Value × Value)) :
    ofEntries base entries =
      (agentOf base entries >>= fun defaultAgent =>
        readKeys (Value.lookup "api_keys" entries) >>= fun keys =>
        levelOf base entries >>= fun logLevel =>
        directoryOf base entries >>= fun logDir =>
        keyTexts keys >>= fun apiKeys => .ok { defaultAgent, apiKeys, logLevel, logDir }) := by
  unfold ofEntries agentOf levelOf directoryOf
  cases Value.lookup? "default_agent" entries <;> cases Value.lookup? "log_level" entries <;>
    cases Value.lookup? "log_dir" entries <;> rfl

theorem readOr_answers {read : Value → Except Fault α} {E : Value → Fault → Prop} {Q : α → Prop}
    (h : ∀ v, Answers (read v) (E v) Q) {default : α} (hdefault : Q default) (found : Option Value) :
    Answers (readOr read default found) (fun e => ∃ v, found = some v ∧ E v e) Q := by
  cases found with
  | none =>
    refine (Answers.ok hdefault).congr fun e => iff_of_false id ?_
    rintro ⟨_, hnone, _⟩
    cases hnone
  | some v =>
    refine (h v).congr fun e => ⟨fun he => ⟨v, rfl, he⟩, ?_⟩
    rintro ⟨v', hv, he⟩
    cases hv
    exact he

/-- Settings in a mapping are neither read nor refused. What comes after a part that is refused is
not looked at. -/
inductive EntriesEscape (base : Settings) (entries : List (Value × Value)) : Fault → Prop
  | agent {v e} : Value.lookup? "default_agent" entries = some v → AgentEscapes v e →
      EntriesEscape base entries e
  | keys {a e} : agentOf base entries = .ok a → KeysEscape (Value.lookup "api_keys" entries) e →
      EntriesEscape base entries e
  /-- The log level is none, and it cannot be shown in the message that says so. -/
  | level {a keys v e} : agentOf base entries = .ok a →
      readKeys (Value.lookup "api_keys" entries) = .ok keys →
      Value.lookup? "log_level" entries = some v → v.text = .error e →
      EntriesEscape base entries e
  /-- No text can be made of the key of a provider. -/
  | text {a keys level dir e} : agentOf base entries = .ok a →
      readKeys (Value.lookup "api_keys" entries) = .ok keys → levelOf base entries = .ok level →
      directoryOf base entries = .ok dir → KeyTextEscapes keys e → EntriesEscape base entries e

/-- **What settings in a mapping come to.** -/
theorem ofEntries_answers {base : Settings} (hbase : base.Sound) (entries : List (Value × Value)) :
    Answers (ofEntries base entries) (EntriesEscape base entries) Sound := by
  rw [ofEntries_eq]
  have hagent (v : Value) : Answers (some <$> readAgent v) (AgentEscapes v)
      fun a => ∃ choice, a = some choice ∧ SoundAgent choice :=
    ((readAgent_answers v).mono fun a _ ha => ⟨a, rfl, ha⟩).map
  refine ((readOr_answers hagent hbase.agent _).bind fun a _ ha =>
    (readKeys_answers _).bind fun keys _ hkeys =>
    (readOr_answers readLevel_answers hbase.level _).bind fun level _ hlevel =>
    (readOr_answers readDirectory_answers (Q := fun _ => True) trivial _).bind fun dir _ _ =>
    (keyTexts_answers hkeys.2).bind fun texts _ htexts => .ok ⟨hlevel, ha, htexts⟩).congr
      fun e => ⟨?_, ?_⟩
  · rintro (⟨v, hv, he⟩ | ⟨a, ha, he | ⟨keys, hkeys, ⟨v, hv, he⟩ | ⟨level, hlevel,
      ⟨_, _, hfalse⟩ | ⟨dir, hdir, he | ⟨_, _, hfalse⟩⟩⟩⟩⟩)
    · exact .agent hv he
    · exact .keys ha he
    · exact .level ha hkeys hv he
    · exact hfalse.elim
    · exact .text ha hkeys hlevel hdir he
    · exact hfalse.elim
  · intro he
    cases he with
    | agent hv he => exact .inl ⟨_, hv, he⟩
    | keys ha he => exact .inr ⟨_, ha, .inl he⟩
    | level ha hkeys hv he => exact .inr ⟨_, ha, .inr ⟨_, hkeys, .inl ⟨_, hv, he⟩⟩⟩
    | text ha hkeys hlevel hdir he =>
      exact .inr ⟨_, ha, .inr ⟨_, hkeys, .inr ⟨_, hlevel, .inr ⟨_, hdir, .inl he⟩⟩⟩⟩

end Settings

end StepFlow
