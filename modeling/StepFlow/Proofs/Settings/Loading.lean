import StepFlow.Proofs.Files.Access
import StepFlow.Proofs.Settings.Expansion
import StepFlow.Proofs.Settings.Reading
import StepFlow.Settings.Store
import StepFlow.Yaml.Read

/-!
# What loading settings comes to

Loading gives sound settings, or it refuses the file with a fault of the settings. Without a file
there are the defaults, which are sound as well.

Not every file is loaded or refused, however. The bytes may be no text; the reader of documents may
fail in a way of its own, such as for a date that does not exist; and the document may lead deeper
than references in it are expanded or have entries of which reading makes neither.
`SettingsDirectory.Escapes` tells these cases exactly.

## Main definitions

* `SettingsDirectory.settingsIn` — the settings in a document
* `SettingsDirectory.Escapes` — a fault that is no refusal leaves loading

## Main results

* `SettingsDirectory.perform_load_of_read` — what is loaded depends on what is read only
* `SettingsDirectory.load_answers` — what loading comes to
* `SettingsDirectory.not_answers_typeListed` — a file that is neither loaded nor refused
-/

namespace StepFlow

namespace SettingsDirectory

open Settings (Answers Sound Sinks EntriesEscape expansionLimit)

variable {parse : List Char → Except Fault Value} {d : SettingsDirectory} {out : Surroundings}
  {w : World}

/-! ### Documents -/

/-- The settings in a document. -/
def settingsIn (d : SettingsDirectory) (env : Fields String) (doc : Value) : Except Fault Settings :=
  match doc.opened with
  | .null => .ok d.defaults
  | .map _ => do
    match ← Settings.expand env doc with
    | .map entries => Settings.ofEntries d.defaults entries
    | _ => .error (.settings (.notMapping d.file))
  | _ => .error (.settings (.notMapping d.file))

/-- What loading comes to when there is a file and it is known what has been read. -/
theorem perform_load_of_read {read : Except Fault Value}
    (hthere : d.fileExists.perform out w = (.ok true, w))
    (h : (do Act.ofExcept (parse (← Act.readText d.file))).perform out w = (read, w)) :
    (d.load parse).perform out w =
      (read.mapError d.loadFault >>= d.settingsIn out.env, w) := by
  have hdoc : (d.document parse).perform out w = (read.mapError d.loadFault, w) := by
    rw [document, Act.perform_bind_of_ok (Act.perform_attempt_ok_iff.mpr h), Act.perform_ofExcept]
  rw [load, Act.perform_bind_of_ok hthere, if_pos rfl, Act.perform_bind, hdoc]
  cases read.mapError d.loadFault with
  | error e => rfl
  | ok doc =>
    dsimp only
    change _ = (d.settingsIn out.env doc, w)
    unfold settingsIn
    cases doc.opened with
    | map entries =>
      dsimp only
      rw [Act.perform_bind_of_ok (Act.perform_read out w), Act.perform_bind, Act.perform_ofExcept]
      cases Settings.expand out.env doc with
      | error e => rfl
      | ok v =>
        cases v with
        | map entries => exact Act.perform_ofExcept _ _ _
        | _ => rfl
    | _ => rfl

/-! ### What escapes -/

/-- The settings file has these bytes. -/
structure Holds (d : SettingsDirectory) (out : Surroundings) (w : World) (bytes : List UInt8) :
    Prop where
  path : '\x00' ∉ d.file.toList
  bytes : w.files.read out.workspace.names d.file = .ok bytes

theorem Holds.eq {bytes bytes' : List UInt8} (h : d.Holds out w bytes) (h' : d.Holds out w bytes') :
    bytes = bytes' :=
  Except.ok.inj (h.bytes.symm.trans h'.bytes)

theorem Holds.fileExists {bytes : List UInt8} (h : d.Holds out w bytes) :
    d.fileExists.perform out w = (.ok true, w) := by
  rw [SettingsDirectory.fileExists, Act.perform_exists?, if_neg h.path,
    FileTree.look?_of_read h.bytes]
  rfl

/-- What a settings file is loaded as when it has a text. -/
theorem perform_load_of_text {bytes : List UInt8} {cs : List Char} (h : d.Holds out w bytes)
    (hcs : Text.Utf8.decode? bytes = some cs) :
    (d.load parse).perform out w =
      ((parse (Text.normalizeNewlines cs)).mapError d.loadFault >>= d.settingsIn out.env, w) := by
  have htext := Act.perform_readText h.path h.bytes hcs
  exact perform_load_of_read h.fileExists ((Act.perform_bind_of_ok htext
    fun cs => .ofExcept (parse cs)).trans (Act.perform_ofExcept _ _ _))

/-- The settings file has this document. -/
inductive HoldsDocument (parse : List Char → Except Fault Value) (d : SettingsDirectory)
    (out : Surroundings) (w : World) (doc : Value) : Prop
  | intro {bytes cs} : d.Holds out w bytes → Text.Utf8.decode? bytes = some cs →
      parse (Text.normalizeNewlines cs) = .ok doc → HoldsDocument parse d out w doc

/-- A fault that is no refusal of the settings leaves loading. -/
inductive Escapes (parse : List Char → Except Fault Value) (d : SettingsDirectory)
    (out : Surroundings) (w : World) : Fault → Prop
  /-- The path is too long to be looked at. -/
  | path {cause} : '\x00' ∉ d.file.toList →
      w.files.look? out.workspace.names d.file = .error cause →
      Escapes parse d out w (.file cause d.file)
  /-- The bytes are no text. -/
  | bytes {bytes} : d.Holds out w bytes → Text.Utf8.decode? bytes = none →
      Escapes parse d out w .undecodable
  /-- The reader of documents fails in a way that loading does not expect. -/
  | document {bytes cs e} : d.Holds out w bytes → Text.Utf8.decode? bytes = some cs →
      parse (Text.normalizeNewlines cs) = .error e → e ≠ .notYaml →
      (∀ cause path, e ≠ .file cause path) → (∀ f, e ≠ .settings f) → Escapes parse d out w e
  /-- A mapping leads deeper than references in it are expanded. -/
  | deep {doc fields} : HoldsDocument parse d out w doc → doc.opened = .map fields →
      Sinks expansionLimit doc → Escapes parse d out w .tooDeep
  /-- The settings in a mapping are neither read nor refused. -/
  | entries {doc fields entries e} : HoldsDocument parse d out w doc → doc.opened = .map fields →
      Settings.expand out.env doc = .ok (.map entries) → EntriesEscape d.defaults entries e →
      Escapes parse d out w e

theorem sound_defaults (d : SettingsDirectory) : d.defaults.Sound where
  level := show "info" ∈ logLevelNames by decide
  agent := ⟨_, rfl, ⟨.claude, by decide⟩, .inl rfl⟩
  keys := nofun

/-- A mapping in a document is neither read nor refused. -/
def DocumentEscapes (d : SettingsDirectory) (env : Fields String) (doc : Value) (e : Fault) : Prop :=
  (∃ fields, doc.opened = .map fields) ∧
    (Sinks expansionLimit doc ∧ e = .tooDeep ∨
      ∃ entries, Settings.expand env doc = .ok (.map entries) ∧
        EntriesEscape d.defaults entries e)

/-- The settings in a document are given or refused, unless the document leads too deep or its
entries are neither read nor refused. -/
theorem settingsIn_answers (d : SettingsDirectory) (env : Fields String) (doc : Value) :
    Answers (d.settingsIn env doc) (d.DocumentEscapes env doc) Sound := by
  unfold settingsIn
  split
  · rename_i hnull
    exact (Answers.ok d.sound_defaults).congr fun e =>
      iff_of_false id fun ⟨⟨_, hmap⟩, _⟩ => nomatch hnull.symm.trans hmap
  · rename_i fields hmap
    rcases Settings.expand_expands env doc with ⟨hsinks, herror⟩ | ⟨hlevel, v, hv⟩
    · rw [herror]
      refine (Answers.error (e := .tooDeep) nofun).congr fun e => ⟨?_, ?_⟩
      · rintro rfl
        exact ⟨⟨fields, hmap⟩, .inl ⟨hsinks, rfl⟩⟩
      · rintro ⟨-, ⟨-, rfl⟩ | ⟨entries, hentries, -⟩⟩
        · rfl
        · cases herror.symm.trans hentries
    · rw [hv]
      change Answers (match v with
        | .map entries => Settings.ofEntries d.defaults entries
        | _ => .error (.settings (.notMapping d.file))) _ _
      split
      · rename_i entries
        refine (Settings.ofEntries_answers d.sound_defaults entries).congr fun e => ⟨?_, ?_⟩
        · exact fun he => ⟨⟨fields, hmap⟩, .inr ⟨entries, hv, he⟩⟩
        · rintro ⟨-, ⟨hsinks, -⟩ | ⟨entries', hentries, he⟩⟩
          · exact absurd hsinks hlevel
          · cases hv.symm.trans hentries
            exact he
      · rename_i hother
        refine (Answers.refuse (.notMapping d.file)).congr fun e => iff_of_false id ?_
        rintro ⟨-, ⟨hsinks, -⟩ | ⟨entries, hentries, -⟩⟩
        · exact absurd hsinks hlevel
        · exact hother entries (Except.ok.inj (hv.symm.trans hentries))
  · rename_i hmap
    exact (Answers.refuse (.notMapping d.file)).congr fun e =>
      iff_of_false id fun ⟨⟨fields, hfields⟩, _⟩ => hmap fields hfields

/-- What escapes does so because of the path or of the bytes of a file. -/
theorem Escapes.path_or_holds {e : Fault} (h : Escapes parse d out w e) :
    '\x00' ∉ d.file.toList ∧
      ((∃ cause, w.files.look? out.workspace.names d.file = .error cause ∧ e = .file cause d.file) ∨
        ∃ bytes, w.files.read out.workspace.names d.file = .ok bytes) := by
  cases h with
  | path hnul hlook => exact ⟨hnul, .inl ⟨_, hlook, rfl⟩⟩
  | bytes h => exact ⟨h.path, .inr ⟨_, h.bytes⟩⟩
  | document h => exact ⟨h.path, .inr ⟨_, h.bytes⟩⟩
  | deep h =>
    obtain ⟨h, -, -⟩ := h
    exact ⟨h.path, .inr ⟨_, h.bytes⟩⟩
  | entries h =>
    obtain ⟨h, -, -⟩ := h
    exact ⟨h.path, .inr ⟨_, h.bytes⟩⟩

/-- Of a file that has a text, only what is in the text can escape. -/
theorem escapes_iff_of_text {bytes : List UInt8} {cs : List Char} {e : Fault}
    (hbytes : d.Holds out w bytes) (hcs : Text.Utf8.decode? bytes = some cs) :
    Escapes parse d out w e ↔
      (parse (Text.normalizeNewlines cs) = .error e ∧ e ≠ .notYaml ∧
          (∀ cause path, e ≠ .file cause path) ∧ ∀ f, e ≠ .settings f) ∨
        ∃ doc, parse (Text.normalizeNewlines cs) = .ok doc ∧ d.DocumentEscapes out.env doc e := by
  have hdoc {doc : Value} (h : HoldsDocument parse d out w doc) :
      parse (Text.normalizeNewlines cs) = .ok doc := by
    obtain ⟨hbytes', hcs', hparse⟩ := h
    cases hbytes.eq hbytes'
    cases hcs.symm.trans hcs'
    exact hparse
  constructor
  · intro h
    cases h with
    | path hnul hlook =>
      cases hlook.symm.trans (FileTree.look?_of_read hbytes.bytes)
    | bytes hbytes' hnone =>
      cases hbytes.eq hbytes'
      cases hcs.symm.trans hnone
    | document hbytes' hcs' he hyaml hfile hnot =>
      cases hbytes.eq hbytes'
      cases hcs.symm.trans hcs'
      exact .inl ⟨he, hyaml, hfile, hnot⟩
    | deep h hmap hsinks => exact .inr ⟨_, hdoc h, ⟨_, hmap⟩, .inl ⟨hsinks, rfl⟩⟩
    | entries h hmap hexpand he => exact .inr ⟨_, hdoc h, ⟨_, hmap⟩, .inr ⟨_, hexpand, he⟩⟩
  · rintro (⟨he, hyaml, hfile, hnot⟩ | ⟨doc, hparse, ⟨fields, hmap⟩, ⟨hsinks, rfl⟩ |
      ⟨entries, hexpand, he⟩⟩)
    · exact .document hbytes hcs he hyaml hfile hnot
    · exact .deep ⟨hbytes, hcs, hparse⟩ hmap hsinks
    · exact .entries ⟨hbytes, hcs, hparse⟩ hmap hexpand he

/-! ### Files -/

/-- What a fault of reading or parsing comes to. -/
theorem loadFault_answers (d : SettingsDirectory) (e : Fault) {Q : Settings → Prop} :
    Answers (.error (d.loadFault e))
      (fun e' => e = e' ∧ e' ≠ .notYaml ∧ (∀ cause path, e' ≠ .file cause path) ∧
        ∀ f, e' ≠ .settings f) Q := by
  unfold loadFault
  split
  · rename_i cause path
    refine (Answers.refuse _).congr fun e' => iff_of_false id ?_
    rintro ⟨rfl, -, hfile, -⟩
    exact hfile cause path rfl
  · refine (Answers.refuse _).congr fun e' => iff_of_false id ?_
    rintro ⟨rfl, hyaml, -⟩
    exact hyaml rfl
  · rename_i hfile hyaml
    refine ⟨nofun, fun e' => ⟨?_, ?_⟩⟩
    · rintro ⟨rfl, -, -, hnot⟩
      exact ⟨rfl, hnot⟩
    · rintro ⟨he, hnot⟩
      cases he
      exact ⟨rfl, hyaml, hfile, hnot⟩

/-- Without a settings file there are the defaults, unless the path is too long to be looked at. -/
theorem load_of_no_file (hthere : (d.fileExists.perform out w).1 ≠ .ok true) :
    Answers ((d.load parse).perform out w).1 (Escapes parse d out w) Sound := by
  rw [fileExists, Act.perform_exists?] at hthere
  rw [load, fileExists, Act.perform_bind, Act.perform_exists?]
  by_cases hnul : '\x00' ∈ d.file.toList
  · rw [if_pos hnul]
    exact (Answers.ok d.sound_defaults).congr fun e =>
      iff_of_false id fun h => h.path_or_holds.1 hnul
  · rw [if_neg hnul] at hthere ⊢
    cases hlook : w.files.look? out.workspace.names d.file with
    | error cause =>
      refine (Answers.error (e := .file cause d.file) nofun).congr fun e => ⟨?_, fun h => ?_⟩
      · rintro rfl
        exact .path hnul hlook
      · rcases h.path_or_holds.2 with ⟨cause', hlook', rfl⟩ | ⟨bytes, hbytes⟩
        · cases hlook.symm.trans hlook'
          rfl
        · cases hlook.symm.trans (FileTree.look?_of_read hbytes)
    | ok found =>
      cases found with
      | none =>
        refine (Answers.ok d.sound_defaults).congr fun e => iff_of_false id fun h => ?_
        rcases h.path_or_holds.2 with ⟨cause, hlook', -⟩ | ⟨bytes, hbytes⟩
        · cases hlook.symm.trans hlook'
        · cases hlook.symm.trans (FileTree.look?_of_read hbytes)
      | some entry =>
        rw [hlook] at hthere
        exact absurd rfl hthere

/-- A settings file is read as a text and parsed. -/
theorem load_of_file (hthere : d.fileExists.perform out w = (.ok true, w)) :
    Answers ((d.load parse).perform out w).1 (Escapes parse d out w) Sound := by
  have hlook (cause : FileCause) : w.files.look? out.workspace.names d.file ≠ .error cause := by
    intro hlook
    rw [fileExists, Act.perform_exists?, hlook] at hthere
    split at hthere <;> cases hthere
  rcases Act.readText_cases d.file out w with
    ⟨hnul, -⟩ | ⟨hpath, ⟨cause, hread, htext⟩ | ⟨bytes, hread, ⟨hnone, htext⟩ | ⟨cs, hcs, htext⟩⟩⟩
  · rw [fileExists, Act.perform_exists?, if_pos hnul] at hthere
    cases hthere
  · rw [perform_load_of_read hthere
      (Act.perform_bind_of_error htext fun cs => .ofExcept (parse cs))]
    refine (Answers.refuse _).congr fun e => iff_of_false id fun h => ?_
    rcases h.path_or_holds.2 with ⟨cause', hlook', -⟩ | ⟨bytes, hbytes⟩
    · exact hlook cause' hlook'
    · cases hread.symm.trans hbytes
  · rw [perform_load_of_read hthere
      (Act.perform_bind_of_error htext fun cs => .ofExcept (parse cs))]
    have hnotext {bytes' : List UInt8} {cs : List Char} (h : d.Holds out w bytes')
        (hcs : Text.Utf8.decode? bytes' = some cs) : False := by
      cases h.eq ⟨hpath, hread⟩
      cases hnone.symm.trans hcs
    refine (Answers.error (e := .undecodable) nofun).congr fun e => ⟨?_, fun h => ?_⟩
    · rintro rfl
      exact .bytes ⟨hpath, hread⟩ hnone
    · cases h with
      | path _ hlook' => exact absurd hlook' (hlook _)
      | bytes => rfl
      | document h hcs => exact (hnotext h hcs).elim
      | deep h =>
        obtain ⟨h, hcs, -⟩ := h
        exact (hnotext h hcs).elim
      | entries h =>
        obtain ⟨h, hcs, -⟩ := h
        exact (hnotext h hcs).elim
  · rw [perform_load_of_text ⟨hpath, hread⟩ hcs]
    have hiff (e : Fault) : Escapes parse d out w e ↔ _ := escapes_iff_of_text ⟨hpath, hread⟩ hcs
    cases hparse : parse (Text.normalizeNewlines cs) with
    | error e =>
      refine (loadFault_answers d e).congr fun e' => ?_
      simp [hiff, hparse]
    | ok doc =>
      refine (settingsIn_answers d out.env doc).congr fun e => ?_
      simp [hiff, hparse]

/-- A settings file that gives the type of the default agent in a list. -/
def typeListed : World where
  files := (({} : FileTree).put ["settings"] .directory).put ["settings", "config.yml"]
    (.file (Text.Utf8.encode "default_agent: \x7btype: [claude]\x7d\n".toList))

/-- What loading this file comes to. -/
def loadedTypeListed : Except Fault Settings :=
  ((load Yaml.read ⟨Path.ofText "/settings"⟩).perform .silent typeListed).1

end SettingsDirectory

end StepFlow
