import StepFlow.Proofs.Command.Outcome
import StepFlow.Proofs.Files.Growth
import StepFlow.Proofs.Settings.Storing

/-!
# Making what is missing

The command that initialises makes the directory of settings, the directory of run logs, a settings
file and a workflow file, each unless it is there. It may come to an end at any of these steps: a
file may stand where a directory should be, or there may be settings that cannot be loaded. What has
been made until then stays, but nothing that was there before is touched, since all the command does
to the files is to add to them.

After a success everything is there. The same call then finds it, and finds the settings that can be
loaded, as long as nothing but additions has happened in between.

## Main definitions

* `SettingsDirectory.Addition` — what may be added, and where
* `SettingsDirectory.Established` — nothing has to be made, and the settings can be loaded
* `Command.Initialises` — what is guaranteed of the command

## Main results

* `SettingsDirectory.adds_establish` — making settings adds them at most
* `SettingsDirectory.Established.perform_establish` — settings are not made again
* `Command.established_of_initialise` — what initialising has made is there
* `Command.initialises` — the guarantees hold of all arguments, files and surroundings
-/

namespace StepFlow

open Act

/-! ### Names of directories -/

/-- An activity that asks nothing but the surroundings. -/
def Act.Steady {α : Type} (a : Act α) (out : Surroundings) : Prop :=
  ∃ r, ∀ w, a.perform out w = (r, w)

theorem Act.Steady.bind {α β : Type} {a : Act α} {f : α → Act β} {out : Surroundings}
    (ha : a.Steady out) (hf : ∀ v, (f v).Steady out) : (a >>= f).Steady out := by
  obtain ⟨r, hr⟩ := ha
  cases r with
  | error e => exact ⟨_, fun w => perform_bind_of_error (hr w) _⟩
  | ok v =>
    obtain ⟨r', hr'⟩ := hf v
    exact ⟨r', fun w => (perform_bind_of_ok (hr w) _).trans (hr' w)⟩

theorem homePath_steady (name : String) (out : Surroundings) : (homePath name).Steady out := by
  refine .bind ⟨_, fun w => rfl⟩ fun own => ?_
  dsimp only
  split
  · split
    · exact ⟨_, fun w => rfl⟩
    · exact ⟨_, fun w => rfl⟩
  · exact ⟨_, fun w => rfl⟩

/-- The directory of settings does not depend on what has been done. -/
theorem SettingsDirectory.named_steady (name : Option String) (out : Surroundings) :
    (named name).Steady out := by
  have hstandard : standard.Steady out :=
    .bind (homePath_steady _ out) fun home => ⟨_, fun w => rfl⟩
  unfold named
  split
  · exact hstandard
  · exact hstandard
  · refine .bind ?_ fun p => ⟨_, fun w => rfl⟩
    unfold expandHome
    split
    · split
      · exact ⟨_, fun w => rfl⟩
      · exact .bind (homePath_steady _ out) fun home => ⟨_, fun w => rfl⟩
    · exact ⟨_, fun w => rfl⟩

/-- The names in the path of a home directory can stand in a path. -/
theorem isPart_of_homePath {name n : String} {p : Path} {out : Surroundings} {w w' : World}
    (h : (homePath name).perform out w = (.ok p, w')) (hn : n ∈ p.names) : Path.IsPart n := by
  obtain ⟨own, w₁, -, h⟩ := perform_bind_ok_iff.mp h
  dsimp only at h
  split at h
  · split at h
    · cases h
    · cases h
      exact Path.isPart_of_mem_ofText hn
  · cases h

namespace SettingsDirectory

variable {d : SettingsDirectory} {s settings : Settings} {file : String} {out : Surroundings}
  {w w' w'' : World} {new : Place → Entry → Prop} {parse : List Char → Except Fault Value}

/-- The names of a directory of settings can stand in a path. -/
theorem isPart_of_named {name : Option String} {n : String}
    (h : (named name).perform out w = (.ok d, w')) (hn : n ∈ d.path.names) : Path.IsPart n := by
  have hstandard (h : standard.perform out w = (.ok d, w')) : Path.IsPart n := by
    obtain ⟨home, w₁, hhome, h⟩ := perform_bind_ok_iff.mp h
    cases h
    have hname : Path.IsPart ".ai-workflow" := ⟨by decide, by decide, by decide⟩
    rw [home.child_eq hname] at hn
    rcases List.mem_append.mp hn with hn | hn
    · exact isPart_of_homePath hhome hn
    · cases List.mem_singleton.mp hn
      exact hname
  unfold named at h
  split at h
  · exact hstandard h
  · exact hstandard h
  · rename_i name _
    obtain ⟨p, w₁, hp, h⟩ := perform_bind_ok_iff.mp h
    cases h
    have hparts : ∀ n ∈ (Path.ofText name).names, Path.IsPart n := fun _ =>
      Path.isPart_of_mem_ofText
    unfold expandHome at hp
    split at hp
    · rename_i first rest hnames
      rw [hnames, List.forall_mem_cons] at hparts
      split at hp
      · cases hp
        rw [hnames] at hn
        exact List.forall_mem_cons.mpr hparts n hn
      · obtain ⟨home, w₂, hhome, hp⟩ := perform_bind_ok_iff.mp hp
        cases hp
        rcases List.mem_append.mp hn with hn | hn
        · exact isPart_of_homePath hhome hn
        · exact hparts.2 n hn
    · cases hp
      exact hparts n hn

theorem getLast?_logs (d : SettingsDirectory) : d.logs.text.toList.getLast? ≠ some '/' :=
  d.path.getLast?_child ⟨by decide, by decide, by decide⟩

/-! ### What may be added -/

/-- What may be added where settings and a workflow file are made: the directories on the way to the
settings, the directory of run logs, the settings and the workflow file. -/
inductive Addition (d : SettingsDirectory) (file : String) (here : Place) : Place → Entry → Prop
  | directory {above : List String} : above ≠ [] → above <+: d.path.names →
      Addition d file here (FileTree.placeOf here (Path.mk d.path.root above).text) .directory
  | logs : Addition d file here (FileTree.placeOf here d.logs.text) .directory
  | settings (bytes : List UInt8) :
      Addition d file here (FileTree.placeOf here d.file) (.file bytes)
  | workflow : Addition d file here (FileTree.placeOf here (Path.ofText file).text)
      (.file (Text.Utf8.encode Command.exampleWorkflow.toList))

theorem fileExists_respects : Respects Eq d.fileExists :=
  .bind (look?_respects _) fun _ => .pure _

theorem ensureDirectory_again (hnames : ∀ n ∈ d.path.names, Path.IsPart n)
    (h : (ensureDirectory d.path).perform out w = (.ok (), w'))
    (hgrows : w'.files.Grows new w''.files) :
    (ensureDirectory d.path).perform out w'' = (.ok (), w'') :=
  ensureDirectories_again (by simpa using hnames) h hgrows

theorem adds_ensureDirectory (hnames : ∀ n ∈ d.path.names, Path.IsPart n) :
    Adds (d.Addition file out.workspace.names) (ensureDirectory d.path) out w := by
  refine adds_ensureDirectories (by simpa using hnames) fun above hne hway => ?_
  rw [List.reverse_reverse] at hway
  exact .directory hne hway

theorem adds_logs :
    Adds (d.Addition file out.workspace.names) (ensureOneDirectory d.logs.text) out w :=
  adds_ensureOneDirectory d.getLast?_logs .logs

/-- Settings are saved in a new file, once their directory has been made. -/
theorem adds_save (hmade : (ensureDirectory d.path).perform out w = (.ok (), w))
    (hnone : d.fileExists.perform out w = (.ok false, w))
    (hnew : ∀ bytes, new (FileTree.placeOf out.workspace.names d.file) (.file bytes)) :
    Adds new (d.save s) out w := by
  rw [Adds, save, perform_bind_of_ok hmade]
  rcases openForWriting_of_none d.getLast?_file hnone with ⟨e, h⟩ | ⟨p, hp, hget, h⟩
  · rw [perform_bind_of_error h]
  · rw [← hp] at hnew
    rw [perform_bind_of_ok h, perform_bind, perform_ofExcept]
    cases Yaml.write s.toEntries with
    | error e => exact FileTree.grows_put hget (hnew _)
    | ok text => exact FileTree.grows_put_put hget _ (hnew _)

/-- **Making settings adds them at most.** -/
theorem adds_establish (hnames : ∀ n ∈ d.path.names, Path.IsPart n) :
    Adds (d.Addition file out.workspace.names) (d.establish parse) out w := by
  have hload (w : World) : Adds (d.Addition file out.workspace.names) (d.load parse) out w :=
    adds_of_reads (d.load_respects parse)
  refine (adds_ensureDirectory hnames).bind fun _ w₁ hmade => ?_
  have hadds : Adds (d.Addition file out.workspace.names) (ensureOneDirectory d.logs.text) out w₁ :=
    adds_logs
  refine hadds.bind fun _ w₂ hlogs => ?_
  refine (adds_of_reads fileExists_respects).bind fun found w₃ hfound => ?_
  obtain rfl : w₂ = w₃ := fileExists_respects.of_perform hfound
  cases found with
  | true => exact hload w₂
  | false =>
    have hsettled := ensureDirectory_again hnames hmade (hadds.of_perform hlogs)
    refine (adds_save hsettled hfound .settings).bind fun _ w₃ _ => ?_
    exact Adds.bind (adds_of_files_eq rfl) fun _ w₄ _ => hload w₄

/-! ### Settings that have been made -/

/-- Nothing has to be made, and the settings can be loaded. -/
structure Established (parse : List Char → Except Fault Value) (d : SettingsDirectory)
    (settings : Settings) (out : Surroundings) (w : World) : Prop where
  directory : (ensureDirectory d.path).perform out w = (.ok (), w)
  logs : (ensureOneDirectory d.logs.text).perform out w = (.ok (), w)
  file : d.fileExists.perform out w = (.ok true, w)
  load : (d.load parse).perform out w = (.ok settings, w)

/-- Settings are loaded from their file, so that additions do not matter once it is there. -/
theorem load_of_grows (hfile : d.fileExists.perform out w = (.ok true, w))
    (h : (d.load parse).perform out w = (.ok settings, w)) (hgrows : w.files.Grows new w'.files) :
    (d.load parse).perform out w' = (.ok settings, w') := by
  have hnul := (exists?_eq_true_iff.mp hfile).1
  rw [perform_load_of_read hfile (perform_ofReadText parse _ out w), perform_readText_eq,
    if_neg hnul] at h
  rw [perform_load_of_read (exists?_of_grows hfile hgrows) (perform_ofReadText parse _ out w'),
    perform_readText_eq, if_neg hnul]
  cases hbytes : w.files.read out.workspace.names d.file with
  | error cause =>
    rw [hbytes] at h
    cases h
  | ok bytes =>
    rw [hbytes] at h
    rw [FileTree.read_eq_ok_iff.mpr (hgrows.stat (FileTree.read_eq_ok_iff.mp hbytes))]
    exact congrArg (·, w') (congrArg Prod.fst h)

theorem Established.of_grows (h : d.Established parse settings out w)
    (hnames : ∀ n ∈ d.path.names, Path.IsPart n) (hgrows : w.files.Grows new w'.files) :
    d.Established parse settings out w' where
  directory := ensureDirectory_again hnames h.directory hgrows
  logs := ensureOneDirectory_again d.getLast?_logs h.logs hgrows
  file := exists?_of_grows h.file hgrows
  load := load_of_grows h.file h.load hgrows

/-- **Settings that have been made are not made again.** -/
theorem Established.perform_establish (h : d.Established parse settings out w) :
    (d.establish parse).perform out w = (.ok settings, w) := by
  rw [establish, perform_bind_of_ok h.directory, perform_bind_of_ok h.logs,
    perform_bind_of_ok h.file]
  exact h.load

theorem established_of_establish (hnames : ∀ n ∈ d.path.names, Path.IsPart n)
    (h : (d.establish parse).perform out w = (.ok settings, w')) :
    d.Established parse settings out w' := by
  obtain ⟨_, w₁, hmade, h⟩ := perform_bind_ok_iff.mp h
  obtain ⟨_, w₂, hlogs, h⟩ := perform_bind_ok_iff.mp h
  obtain ⟨found, w₃, hfound, h⟩ := perform_bind_ok_iff.mp h
  obtain rfl : w₂ = w₃ := fileExists_respects.of_perform hfound
  have hadds : Adds (d.Addition "" out.workspace.names) (ensureOneDirectory d.logs.text) out w₁ :=
    adds_logs
  have hsettled := ensureDirectory_again hnames hmade (hadds.of_perform hlogs)
  cases found with
  | true =>
    obtain rfl : w₂ = w' := (d.load_respects parse).of_perform h
    have hsame : w₂.files.Grows (fun _ _ => True) w₂.files := .refl _
    exact ⟨hsettled, ensureOneDirectory_again d.getLast?_logs hlogs hsame, hfound, h⟩
  | false =>
    obtain ⟨_, w₃, hsave, h⟩ := perform_bind_ok_iff.mp h
    obtain ⟨_, w₄, hinfo, h⟩ := perform_bind_ok_iff.mp h
    obtain rfl : w₄ = w' := (d.load_respects parse).of_perform h
    cases hinfo
    have hadds : Adds (fun _ _ => True) (d.save d.defaults) out w₂ :=
      adds_save hsettled hfound fun _ => trivial
    have hsaved := hadds.of_perform hsave
    obtain ⟨text, -, hholds⟩ := d.holds_of_save hsave
    exact ⟨ensureDirectory_again hnames hsettled hsaved,
      ensureOneDirectory_again d.getLast?_logs hlogs hsaved,
      exists?_of_files hholds.fileExists rfl, h⟩

end SettingsDirectory

/-! ### The command -/

namespace Command

open SettingsDirectory (Addition Established)

variable {d : SettingsDirectory} {settings : Settings} {file : String} {out : Surroundings}
  {w w' : World}

/-- The roots are found in every tree. -/
theorem exists?_root {root : String} (h : Path.IsRoot root) (out : Surroundings) (w : World) :
    (exists? root).perform out w = (.ok true, w) := by
  rcases h with rfl | rfl <;> rfl

/-- A path in normal form that leads to nothing has no slash at its end. -/
theorem getLast?_of_not_found
    (h : (exists? (Path.ofText file).text).perform out w = (.ok false, w)) :
    (Path.ofText file).text.toList.getLast? ≠ some '/' := by
  have hparts : ∀ n ∈ (Path.ofText file).names, Path.IsPart n := fun _ => Path.isPart_of_mem_ofText
  have hroot := Path.root_ofText_cases file
  generalize Path.ofText file = p at h hparts hroot ⊢
  obtain ⟨root, names⟩ := p
  induction names using List.reverseRecOn with
  | append_singleton names n _ =>
    exact Path.getLast?_text_append root names (hparts n (by simp))
  | nil =>
    rcases hroot with ⟨-, hroot⟩ | ⟨-, hroot⟩
    · rw [Path.text_root hroot, exists?_root hroot] at h
      cases h
    · cases hroot
      decide

/-- Initialising adds files and directories at most. -/
theorem adds_initialise (hnames : ∀ n ∈ d.path.names, Path.IsPart n) :
    Adds (d.Addition file out.workspace.names) (initialise d file) out w := by
  refine (adds_of_reads d.fileExists_respects).bind fun existed w₁ _ => ?_
  have hestablish : Adds (d.Addition file out.workspace.names)
      (attempt (d.establish Yaml.read)) out w₁ := d.adds_establish hnames
  refine hestablish.bind fun made w₂ _ => ?_
  cases made with
  | error e =>
    dsimp only
    split
    · exact .refl _
    · exact .refl _
  | ok settings =>
    refine Adds.bind (adds_of_files_eq rfl) fun _ w₃ _ => ?_
    have hreads : Respects Eq (exists? (Path.ofText file).text) :=
      .bind (look?_respects _) fun _ => .pure _
    refine (adds_of_reads hreads).bind fun found w₄ hfound => ?_
    obtain rfl : w₃ = w₄ := hreads.of_perform hfound
    cases found with
    | true => exact .refl _
    | false =>
      refine (adds_writeText (getLast?_of_not_found hfound) hfound .workflow).bind fun _ w₄ _ => ?_
      exact .refl _

/-- Where nothing is missing, nothing is made. -/
theorem initialise_of_established (hmade : d.Established Yaml.read settings out w)
    (hfound : (exists? (Path.ofText file).text).perform out w = (.ok true, w)) :
    ∃ w', (initialise d file).perform out w = (.ok 0, w') ∧ w.Unaffected w' := by
  have hfound' (line : String) : (exists? (Path.ofText file).text).perform out
      { w with printed := w.printed ++ [line] } =
        (.ok true, { w with printed := w.printed ++ [line] }) := exists?_of_files hfound rfl
  rw [initialise, perform_bind_of_ok hmade.file,
    perform_bind_of_ok (perform_attempt_ok_iff.mpr hmade.perform_establish)]
  dsimp only
  rw [perform_bind_of_ok (perform_printLine _ _ _), perform_bind_of_ok (hfound' _), if_pos rfl,
    perform_bind_of_ok (perform_printLine _ _ _)]
  exact ⟨_, rfl, rfl, rfl, rfl⟩

/-- **What initialising has made is there.** -/
theorem established_of_initialise (hnames : ∀ n ∈ d.path.names, Path.IsPart n)
    (h : (initialise d file).perform out w = (.ok 0, w')) :
    (∃ settings, d.Established Yaml.read settings out w') ∧
      (exists? (Path.ofText file).text).perform out w' = (.ok true, w') := by
  obtain ⟨existed, w₁, -, h⟩ := perform_bind_ok_iff.mp h
  obtain ⟨made, w₂, hmade, h⟩ := perform_bind_ok_iff.mp h
  rw [perform_attempt_ok_iff] at hmade
  cases made with
  | error e =>
    dsimp only at h
    split at h
    · cases h
    · cases h
  | ok settings =>
    have hestablished := d.established_of_establish hnames hmade
    obtain ⟨_, w₃, hprint, h⟩ := perform_bind_ok_iff.mp h
    obtain ⟨found, w₄, hfound, h⟩ := perform_bind_ok_iff.mp h
    have hreads : Respects Eq (exists? (Path.ofText file).text) :=
      .bind (look?_respects _) fun _ => .pure _
    obtain rfl : w₃ = w₄ := hreads.of_perform hfound
    cases hprint
    cases found with
    | true =>
      cases h
      have hsame : w₂.files.Grows (fun _ _ => True) w₂.files := .refl _
      exact ⟨⟨settings, hestablished.of_grows hnames hsame⟩, exists?_of_files hfound rfl⟩
    | false =>
      obtain ⟨_, w₄, hwrite, h⟩ := perform_bind_ok_iff.mp h
      have hlast := getLast?_of_not_found hfound
      have hadds : Adds (fun _ _ => True) (writeText (Path.ofText file).text exampleWorkflow) out _ :=
        adds_writeText hlast hfound trivial
      have hgrows := hadds.of_perform hwrite
      have hthere := exists?_of_writeText hlast hwrite
      cases h
      exact ⟨⟨settings, hestablished.of_grows hnames hgrows⟩,
        exists?_of_files hthere rfl⟩

/-! ### What is guaranteed -/

/-- The program with arguments that ask it to initialise. -/
def askedToInitialise (configDir : Option String) (level : LogChoice) (file : String) : Act Nat :=
  Arguments.perform ⟨configDir, some (.init file, level)⟩

/-- What is guaranteed of the command that makes settings and an example workflow. -/
structure Initialises (configDir : Option String) (level : LogChoice) (file : String)
    (out : Surroundings) (w : World) : Prop where
  /-- Whatever becomes of it, every file stays as it is, -/
  keeps : ∀ place bytes, w.files.get? place = some (.file bytes) →
    ((askedToInitialise configDir level file).perform out w).2.files.get? place =
      some (.file bytes)
  /-- and nothing happens but additions. -/
  adds : Adds (fun place e => ∃ d : SettingsDirectory,
      (SettingsDirectory.named configDir).perform out w = (.ok d, w) ∧
        d.Addition file out.workspace.names place e)
    (askedToInitialise configDir level file) out w
  /-- After a success the same call succeeds once more and changes nothing, -/
  again : ∀ w', (askedToInitialise configDir level file).perform out w = (.ok 0, w') →
    ∃ w'', (askedToInitialise configDir level file).perform out w' = (.ok 0, w'') ∧
      w'.Unaffected w''
  /-- and there are settings. -/
  loads : ∀ w', (askedToInitialise configDir level file).perform out w = (.ok 0, w') →
    ∃ settings, (settingsNamed configDir).perform out w' = (.ok settings, w')

/-- **Initialising adds what is missing**, and does so once. -/
theorem initialises (configDir : Option String) (level : LogChoice) (file : String)
    (out : Surroundings) (w : World) : Initialises configDir level file out w := by
  obtain ⟨r, hnamed⟩ := SettingsDirectory.named_steady configDir out
  cases r with
  | error e =>
    have hended : (askedToInitialise configDir level file).perform out w = (.error e, w) :=
      perform_bind_of_error (hnamed w) _
    exact {
      keeps := fun place bytes h => by rwa [hended]
      adds := adds_of_files_eq (by rw [hended])
      again := fun w' h => by cases hended.symm.trans h
      loads := fun w' h => by cases hended.symm.trans h }
  | ok d =>
    have hnames : ∀ n ∈ d.path.names, Path.IsPart n := fun _ => d.isPart_of_named (hnamed w)
    have hasked (w : World) : (askedToInitialise configDir level file).perform out w =
        (initialise d file).perform out w := perform_bind_of_ok (hnamed w) _
    have hadds : Adds (d.Addition file out.workspace.names) (initialise d file) out w :=
      adds_initialise hnames
    rw [Adds, ← hasked] at hadds
    exact {
      keeps := fun place bytes => hadds.get?
      adds := fun place => by
        rcases hadds place with hsame | ⟨hnone, e, he, hnew⟩
        · exact .inl hsame
        · exact .inr ⟨hnone, e, he, d, hnamed w, hnew⟩
      again := fun w' h => by
        obtain ⟨⟨settings, hmade⟩, hfound⟩ :=
          established_of_initialise hnames ((hasked w).symm.trans h)
        rw [hasked]
        exact initialise_of_established hmade hfound
      loads := fun w' h => by
        obtain ⟨⟨settings, hmade⟩, -⟩ :=
          established_of_initialise hnames ((hasked w).symm.trans h)
        exact ⟨settings, (perform_bind_of_ok (hnamed w') _).trans hmade.load⟩ }

/-- Where there is nothing yet, everything is made. -/
example :
    let made := (askedToInitialise (some "settings") {} "workflows.yml").perform .silent {}
    made.1 = .ok 0 ∧ made.2.files.entries.map (·.1) =
      [["settings"], ["settings", "logs"], ["settings", "config.yml"], ["workflows.yml"]] := by
  decide +kernel

end Command

end StepFlow
