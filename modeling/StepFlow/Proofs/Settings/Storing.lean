import StepFlow.Proofs.Files.Spelling
import StepFlow.Proofs.Settings.Loading
import StepFlow.Proofs.Text.Utf8
import StepFlow.Proofs.Value.Fields

/-!
# Settings that are stored and read again

Settings are stored as a mapping that leaves out what is not set, and reading puts the defaults in
the place of what is missing. So settings come back as they were only if nothing is left out that has
a default: there is a default agent, whose model is not the empty text, and a directory of run logs
that is not the empty text either. The log level is always stored. Keys of providers may be missing,
since they have no default, and so may the model and the temperature of the agent.

Besides, references are expanded before settings are read. A text that refers to a variable with a
value would come back as this value, and it is the only text that would not come back as it was.

In the settings file lies what has been saved last, whatever the tree of files looks like otherwise.
That the reader of documents finds in it the mapping that has been written is an assumption here.

## Main definitions

* `Settings.Storable` — settings that come back if they hold no references
* `Settings.Unreferring` — no text in settings refers to a variable that has a value
* `Settings.Restored` — settings are found again

## Main results

* `Settings.ofEntries_toEntries` — settings in the mapping that they are stored as
* `Settings.unchanged_toEntries` — nothing is expanded in this mapping
* `SettingsDirectory.holds_of_save` — what has been saved lies in the settings file
* `Settings.restored_of_storable` — settings that can be stored are found again
-/

namespace StepFlow

namespace Settings

/-! ### The default agent -/

/-- A default agent with the fields that it is stored with. -/
theorem readAgent_map {fields : List (Value × Value)} {name : String} {type : AgentType}
    (model : Option String) {t : Value} (hname : Value.lookup "type" fields = .str name)
    (htype : AgentType.ofName? name = some type)
    (htemperature : readTemperature (Value.lookup "temperature" fields) = .ok t)
    (hmodel : Value.lookup "model" fields = (model.map Value.str).getD .null) :
    readAgent (.map fields) = .ok { type := name, model, temperature := t } := by
  have hsome : (AgentType.ofName? name).isSome = true := by rw [htype]; rfl
  rw [readAgent]
  dsimp only
  rw [hname, if_pos (by rfl)]
  dsimp only
  rw [if_pos hsome, pure_bind, htemperature, hmodel]
  cases model with
  | none => rfl
  | some m => rfl

theorem Temperate.read_eq {v : Value} (h : Temperate v) : readTemperature v = .ok v := by
  rcases h with rfl | ⟨x, rfl, hx⟩
  · rfl
  · rcases readTemperature_double x with ⟨-, hread⟩ | ⟨hnot, -⟩
    · exact hread
    · exact absurd hx hnot

/-- A text that is not empty is written whenever there is one. -/
theorem nonEmptyText_eq {name : String} {o : Option String} (h : o ≠ some "") :
    nonEmptyText name o = o.toList.map fun s => (name, .str s) := by
  cases o with
  | none => rfl
  | some s => exact if_neg fun hempty => h (congrArg some hempty)

theorem mem_nonEmptyText {name : String} {o : Option String} {f : String × Value}
    (h : f ∈ nonEmptyText name o) : ∃ s, o = some s ∧ f = (name, .str s) := by
  by_cases hempty : o = some ""
  · subst hempty
    cases h
  · rw [nonEmptyText_eq hempty] at h
    obtain ⟨s, hs, rfl⟩ := List.mem_map.mp h
    exact ⟨s, Option.mem_toList.mp hs, rfl⟩

/-- A default agent that is stored is read again. -/
theorem readAgent_agentValue {a : AgentChoice} (h : SoundAgent a) (hmodel : a.model ≠ some "") :
    readAgent (agentValue a) = .ok a := by
  obtain ⟨name, model, temperature⟩ := a
  obtain ⟨⟨type, htype⟩, htemperature⟩ := h
  dsimp only at htype htemperature hmodel
  have hread := htemperature.read_eq
  rw [agentValue, nonEmptyText_eq hmodel]
  -- it is known which fields there are only when both the temperature and the model are
  rcases htemperature with rfl | ⟨x, rfl, -⟩
  · cases model <;> exact readAgent_map _ rfl htype hread rfl
  · cases model <;> exact readAgent_map _ rfl htype hread rfl

/-! ### Keys of providers -/

/-- Keys of providers as a mapping. -/
def keyEntries (keys : Fields String) : List (Value × Value) :=
  keys.map fun k => (.str k.1, .str k.2)

theorem readKeys_keyEntries {keys : Fields String}
    (h : ∀ k ∈ keys, (keyVariables.get? k.1).isSome) :
    readKeys (.map (keyEntries keys)) = .ok (keyEntries keys) := by
  cases keys with
  | nil => rfl
  | cons k rest =>
    unfold readKeys
    have htruthy : (Value.map (keyEntries (k :: rest))).isTruthy = true := rfl
    rw [htruthy, if_neg (by decide)]
    dsimp only
    rw [if_pos]
    · rfl
    · rw [List.isEmpty_iff, List.filter_eq_nil_iff]
      intro v hv
      obtain ⟨p, hp, rfl⟩ := List.mem_map.mp hv
      obtain ⟨k', hk', rfl⟩ := List.mem_map.mp hp
      simp [h k' hk']

theorem keyTexts_keyEntries (keys : Fields String) : keyTexts (keyEntries keys) = .ok keys := by
  induction keys with
  | nil => rfl
  | cons k rest ih =>
    have hkey : keyTexts (keyEntries (k :: rest)) =
        (do return (k.1, k.2) :: (← keyTexts (keyEntries rest))) := rfl
    rw [hkey, ih]
    rfl

/-! ### All of the settings -/

/-- Settings of which no part is left out that has a default when they are read. -/
structure Storable (s : Settings) : Prop extends s.Sound where
  model : ∀ a, s.defaultAgent = some a → a.model ≠ some ""
  directory : ∃ dir, s.logDir = some dir ∧ dir ≠ ""

/-- The fields of settings that can be stored. -/
theorem toFields_eq {s : Settings} {a : AgentChoice} {dir : String} (ha : s.defaultAgent = some a)
    (hdir : s.logDir = some dir) (hne : dir ≠ "") :
    s.toFields = [("log_level", .str s.logLevel), ("default_agent", agentValue a)] ++
      (if s.apiKeys.isEmpty then [] else [("api_keys", .map (keyEntries s.apiKeys))]) ++
      [("log_dir", .str dir)] := by
  have hsome : some dir ≠ some "" := fun h => hne (Option.some.inj h)
  rw [toFields, ha, hdir, nonEmptyText_eq hsome, keyEntries, Value.ofFields, List.map_map]
  rfl

/-- **Settings that are stored as a mapping are read again**, whatever the defaults may be. -/
theorem ofEntries_toEntries {s : Settings} (h : s.Storable) (base : Settings) :
    ofEntries base s.toEntries = .ok s := by
  obtain ⟨⟨hlevel, ⟨a, ha, hsound⟩, hkeys⟩, hmodel, dir, hdir, hne⟩ := h
  have hfields := toFields_eq ha hdir hne
  have hlookup (key : String) : Value.lookup? key s.toEntries = s.toFields.get? key :=
    Value.lookup?_fields key s.toFields
  have hagent : agentOf base s.toEntries = .ok s.defaultAgent := by
    rw [agentOf, hlookup, hfields, ha]
    change some <$> readAgent (agentValue a) = _
    rw [readAgent_agentValue hsound (hmodel a ha)]
    rfl
  have hstored : readKeys (Value.lookup "api_keys" s.toEntries) = .ok (keyEntries s.apiKeys) := by
    rw [Value.lookup, hlookup, hfields]
    cases hnil : s.apiKeys with
    | nil => rfl
    | cons k rest =>
      rw [hnil] at hkeys
      exact readKeys_keyEntries hkeys
  have hread : levelOf base s.toEntries = .ok s.logLevel := by
    rw [levelOf, hlookup, hfields]
    exact if_pos (List.contains_iff_mem.mpr hlevel)
  have hdirectory : directoryOf base s.toEntries = .ok s.logDir := by
    rw [directoryOf, hlookup, hfields, hdir]
    cases s.apiKeys <;> rfl
  rw [ofEntries_eq, hagent, hstored, hread, hdirectory]
  change (keyTexts (keyEntries s.apiKeys) >>= fun apiKeys => Except.ok { s with apiKeys }) = _
  rw [keyTexts_keyEntries]
  rfl

/-! ### Texts of settings -/

/-- The texts in settings. -/
def texts (s : Settings) : List String :=
  s.logLevel :: (s.defaultAgent.toList.flatMap fun a => a.type :: a.model.toList) ++
    s.apiKeys.map (·.2) ++ s.logDir.toList

/-- No text in settings refers to a variable that has a value. -/
def Unreferring (s : Settings) (env : Fields String) : Prop :=
  ∀ text ∈ s.texts, ∀ name v, IsReference name text → env.get? name = some v → v = ""

section

variable {env : Fields String} {depth : Nat}

theorem unchanged_fields {fields : Fields Value} (hdepth : depth < expansionLimit)
    (h : ∀ f ∈ fields, Unchanged env (depth + 1) f.2) :
    Unchanged env depth (.map (fields.map fun f => (.str f.1, f.2))) := by
  refine unchanged_map hdepth fun p hp => ?_
  obtain ⟨f, hf, rfl⟩ := List.mem_map.mp hp
  exact h f hf

theorem unchanged_agentValue {a : AgentChoice} (h : SoundAgent a) (hdepth : depth < expansionLimit)
    (htype : Unchanged env (depth + 1) (.str a.type))
    (hmodel : ∀ m, a.model = some m → Unchanged env (depth + 1) (.str m)) :
    Unchanged env depth (agentValue a) := by
  refine unchanged_fields hdepth fun f hf => ?_
  rcases List.mem_append.mp hf with hf | hf
  · rcases List.mem_append.mp hf with hf | hf
    · cases List.mem_singleton.mp hf
      exact htype
    · obtain ⟨m, hm, rfl⟩ := mem_nonEmptyText hf
      exact hmodel m hm
  · rcases h.temperature with hnull | ⟨x, hx, -⟩
    · rw [hnull] at hf
      cases hf
    · rw [hx] at hf
      cases List.mem_singleton.mp hf
      exact unchanged_double _ x

/-- **Nothing is expanded in settings without references.** -/
theorem unchanged_toEntries {s : Settings} (h : s.Storable) (hrefs : s.Unreferring env) :
    Unchanged env 0 (.map s.toEntries) := by
  obtain ⟨⟨-, ⟨a, ha, hsound⟩, -⟩, -, dir, hdir, hne⟩ := h
  have htext {text : String} (hmem : text ∈ s.texts) {depth : Nat} : Unchanged env depth (.str text) :=
    unchanged_str (expandText_eq_self (hrefs text hmem))
  refine unchanged_fields (by decide) fun f hf => ?_
  simp only [toFields_eq ha hdir hne, List.mem_append, List.mem_cons, List.not_mem_nil,
    or_false] at hf
  rcases hf with ((rfl | rfl) | hf) | rfl
  · exact htext (by simp [texts])
  · refine unchanged_agentValue hsound (by decide) (htext ?_) fun m hm => htext ?_
    · simp [texts, ha]
    · simp [texts, ha, hm]
  · split at hf
    · cases hf
    · cases List.mem_singleton.mp hf
      refine unchanged_map (by decide) fun p hp => ?_
      obtain ⟨k, hk, rfl⟩ := List.mem_map.mp hp
      exact htext (List.mem_append_left _ (List.mem_append_right _ (List.mem_map_of_mem hk)))
  · exact htext (by simp [texts, hdir])

end

end Settings

/-! ### The settings file -/

namespace SettingsDirectory

variable {d : SettingsDirectory} {s : Settings} {out : Surroundings} {w w' : World}

theorem getLast?_file (d : SettingsDirectory) : d.file.toList.getLast? ≠ some '/' :=
  d.path.getLast?_child ⟨by decide, by decide, by decide⟩

/-- **What has been saved lies in the settings file.** -/
theorem holds_of_save (h : (d.save s).perform out w = (.ok (), w')) :
    ∃ text, Yaml.write s.toEntries = .ok text ∧ d.Holds out w' (Text.Utf8.encode text.toList) := by
  obtain ⟨_, w₁, -, h⟩ := Act.perform_bind_ok_iff.mp h
  obtain ⟨place, w₂, hopen, h⟩ := Act.perform_bind_ok_iff.mp h
  obtain ⟨text, w₃, htext, h⟩ := Act.perform_bind_ok_iff.mp h
  obtain ⟨hnul, hwritable, rfl⟩ := Act.openForWriting_ok hopen
  rw [Act.perform_ofExcept, Prod.mk.injEq] at htext
  obtain ⟨htext, rfl⟩ := htext
  rw [Act.perform_change_eq, Prod.mk.injEq] at h
  obtain ⟨-, rfl⟩ := h
  refine ⟨text, htext, hnul, ?_⟩
  exact FileTree.read_put_of_writable hwritable d.getLast?_file _ _

end SettingsDirectory

/-! ### Settings that are found again -/

namespace Settings

/-- Settings are found again: in the mapping that they are stored as, and in the settings file when
they have been saved and the reader of documents finds this mapping in what has been written. -/
structure Restored (s : Settings) (out : Surroundings) : Prop where
  expanded : expand out.env (.map s.toEntries) = .ok (.map s.toEntries)
  read : ∀ base : Settings, ofEntries base s.toEntries = .ok s
  loaded : ∀ (d : SettingsDirectory) (parse : List Char → Except Fault Value) (w w' : World),
    (∀ text, Yaml.write s.toEntries = .ok text →
      parse (Text.normalizeNewlines text.toList) = .ok (.map s.toEntries)) →
    (d.save s).perform out w = (.ok (), w') → (d.load parse).perform out w' = (.ok s, w')

/-- **Settings that can be stored are found again**, if no text in them refers to a variable that has
a value. -/
theorem restored_of_storable {s : Settings} (h : s.Storable) {out : Surroundings}
    (hrefs : s.Unreferring out.env) : s.Restored out where
  expanded := unchanged_toEntries h hrefs
  read := ofEntries_toEntries h
  loaded d parse w w' hparse hsave := by
    obtain ⟨text, htext, hholds⟩ := d.holds_of_save hsave
    have hfound : d.settingsIn out.env (.map s.toEntries) = .ok s := by
      have hexpanded : expand out.env (.map s.toEntries) = .ok (.map s.toEntries) :=
        unchanged_toEntries h hrefs
      change (expand out.env (.map s.toEntries) >>= _) = _
      rw [hexpanded]
      exact ofEntries_toEntries h d.defaults
    have hdecode := Text.Utf8.decode?_encode text.toList
    rw [SettingsDirectory.perform_load_of_text hholds hdecode, hparse text htext]
    exact congrArg (·, w') hfound

/-- Settings with all that may be set. One of the keys refers to a variable that has no value. -/
def complete : Settings where
  defaultAgent := some {
    type := "openai", model := some "gpt-4o", temperature := .double (.ofDecimal false 3 (-1)) }
  apiKeys := [("openai", "$\x7bTEAM_KEY\x7d"), ("anthropic", "")]
  logLevel := "debug"
  logDir := some "$\x7bHOME\x7d/logs"

theorem restored_of_storable_complete :
    let out := { Surroundings.silent with env := [("HOME", "/home/me")] }
    let d : SettingsDirectory := ⟨Path.ofText "/settings"⟩
    complete.Storable ∧ complete.Unreferring out.env ∧
      ∃ w', (d.save complete).perform out {} = (.ok (), w') ∧
        (d.load fun _ => .ok (.map complete.toEntries)).perform out w' = (.ok complete, w') := by
  intro out d
  have hstorable : complete.Storable :=
    { level := by decide
      agent := ⟨_, rfl, ⟨.openai, by decide⟩, .inr ⟨_, rfl, _, _, rfl, by decide, by decide⟩⟩
      keys := by decide
      model := fun a ha => by
        cases ha
        decide
      directory := ⟨_, rfl, by decide⟩ }
  have hrefs : complete.Unreferring out.env := by
    have hnone : ∀ text ∈ complete.texts, (reference? text).bind (Fields.get? out.env) = none := by
      decide
    intro text htext name v hname hv
    have hsome : (reference? text).bind (Fields.get? out.env) = some v := by
      rw [reference?_eq_some_iff.mpr hname]
      exact hv
    cases (hnone text htext).symm.trans hsome
  have hsave : ((d.save complete).perform out {}).1 = .ok () := by decide +kernel
  refine ⟨hstorable, hrefs, _, Prod.ext hsave rfl, ?_⟩
  exact (restored_of_storable hstorable hrefs).loaded d _ _ _ (fun _ _ => rfl) (Prod.ext hsave rfl)

end Settings

end StepFlow
