import StepFlow.Proofs.Command.Outcome
import StepFlow.Proofs.Fields
import StepFlow.Proofs.Json.Reading
import StepFlow.Proofs.Text.Utf8

/-!
# The list of run logs

The list tells of each run log by itself: of one that holds a record there is a line, one that is
foreseen to be unreadable is passed over with a warning. Neither changes a file, so what is told of
a log does not depend on the logs before it.

Four things in a file are not foreseen: collections that lie too deep in one another, a value that is
no mapping, steps that cannot be counted, and a text with half of a surrogate pair in it where a text
is to be printed. Each of them ends the command, and the logs with earlier names are not told of.

## Main definitions

* `Command.Shows` — what a run log comes to by what is in its file
* `Command.listedAt` — what is told of a file
* `Command.told` — the world after some files have been told of
* `Command.NewestFirst` — the run logs in a directory in the order of the list
* `Command.ListsLogs` — what the whole command does

## Main results

* `Command.shows_iff` — every content comes to one thing, and it is what is told
* `Command.perform_forM_printLog` — the files are told of each by itself
* `Command.lists_logs` — the list tells of all files, unless something escapes
* `Command.not_listed_bracketed` — a list in a file ends the command
-/

namespace StepFlow

open Act

namespace Command

/-! ### One run log -/

/-- What a run log comes to in the list. -/
inductive Listed where
  | line (text : String)
  /-- It is passed over, with a warning that tells the reason. -/
  | passedOver (reason : Fault)
  /-- It ends the command with a fault. -/
  | escape (fault : Fault)

/-- The number of steps that is told of a value. -/
inductive Counts : Value → Nat → Prop
  | list (items : List Value) : Counts (.list items) items.length
  | map (entries : List (Value × Value)) : Counts (.map entries) entries.length
  | str (s : String) : Counts (.str s) s.length
  | rough (t : RoughText) : Counts (.rough t) t.points.length

/-- A value that is printed as it is, and has half of a surrogate pair in it. -/
def IsRough (v : Value) : Prop := ∃ t, v = .rough t

/-- What is printed of a record, besides the number of its steps. -/
def printedOf (r : RunRecord) : List Value := [r.runId, r.workflow, r.status]

/-- **What a run log comes to by what is in its file**: a text, or the reason why there is none. -/
inductive Shows (content : Except Fault (List Char)) : Listed → Prop
  | record {cs : List Char} {fields : List (Value × Value)} {r : RunRecord}
      {runId workflow status : String} {count : Nat} :
      content = .ok cs → Json.read cs = .ok (.map fields) →
      RunRecord.ofValue (.map fields) = .ok r →
      r.runId.text = .ok runId → r.workflow.text = .ok workflow → r.status.text = .ok status →
      Counts r.steps count → (∀ v ∈ printedOf r, ¬IsRough v) →
      Shows content (.line s!"{runId}  {workflow}  {status}  {count} step result(s)")
  | noText {e : Fault} : content = .error e → Shows content (.passedOver e)
  | noJson {cs : List Char} {e : Fault} : content = .ok cs → Json.read cs = .error e →
      e ≠ .tooDeep → Shows content (.passedOver e)
  /-- A field is missing. -/
  | incomplete {cs : List Char} {fields : List (Value × Value)} {key : String} :
      content = .ok cs → Json.read cs = .ok (.map fields) →
      RunRecord.ofValue (.map fields) = .error (.missingKey key) →
      Shows content (.passedOver (.missingKey key))
  /-- Collections lie too deep in one another. -/
  | tooDeep {cs : List Char} : content = .ok cs → Json.read cs = .error .tooDeep →
      Shows content (.escape .tooDeep)
  | noMapping {cs : List Char} {v : Value} : content = .ok cs → Json.read cs = .ok v →
      (∀ fields, v ≠ .map fields) →
      Shows content (.escape (.wrongKind s!"a run record must be a mapping, not {v.kind}"))
  /-- The steps are null, a Boolean or a number. -/
  | uncounted {cs : List Char} {fields : List (Value × Value)} {r : RunRecord} :
      content = .ok cs → Json.read cs = .ok (.map fields) →
      RunRecord.ofValue (.map fields) = .ok r →
      (∀ count, ¬Counts r.steps count) →
      Shows content (.escape (.wrongKind s!"object of type '{r.steps.kind}' has no len()"))
  /-- The identifier, the workflow or the status has half of a surrogate pair in it. -/
  | unprintable {cs : List Char} {fields : List (Value × Value)} {r : RunRecord} {count : Nat} :
      content = .ok cs → Json.read cs = .ok (.map fields) →
      RunRecord.ofValue (.map fields) = .ok r → Counts r.steps count →
      (∃ v ∈ printedOf r, IsRough v) → Shows content (.escape .unencodable)

/-- What a run log is shown as. -/
def listed (content : Except Fault (List Char)) : Listed :=
  match content >>= fun cs => Json.read cs >>= RunRecord.ofValue with
  | .ok r =>
    match recordLine r with
    | .ok text => .line text
    | .error e => .escape e
  | .error e => if isUnreadable e then .passedOver e else .escape e

/-- What is required of a mapping is found in it, or told to be missing. -/
theorem required_fails (name : String) (fields : List (Value × Value)) :
    FailsOnly (fun e => ∃ key, e = .missingKey key) (RunRecord.required name fields) := by
  unfold RunRecord.required
  split
  · exact .ok _
  · exact .error ⟨_, rfl⟩

theorem ofValue_fails (fields : List (Value × Value)) :
    FailsOnly (fun e => ∃ key, e = .missingKey key) (RunRecord.ofValue (.map fields)) := by
  rw [RunRecord.ofValue]
  refine .bind (required_fails _ _) fun _ => .bind (required_fails _ _) fun _ => ?_
  refine .bind (required_fails _ _) fun _ => .bind (required_fails _ _) fun _ => ?_
  exact .bind (required_fails _ _) fun _ => .ok _

theorem lookup?_of_required {name : String} {fields : List (Value × Value)} {v : Value}
    (h : RunRecord.required name fields = .ok v) : Value.lookup? name fields = some v := by
  unfold RunRecord.required at h
  split at h
  · cases h
    assumption
  · cases h

/-- What the list tells of a record is made of the kinds of JSON. -/
theorem denotable_of_ofValue {room : Nat} {fields : List (Value × Value)} {r : RunRecord}
    (h : Json.Denotable (room + 1) (.map fields)) (hr : RunRecord.ofValue (.map fields) = .ok r) :
    (∀ v ∈ printedOf r, Json.Denotable room v) ∧ ∃ room, Json.Denotable room r.steps := by
  have hfields (e : Value × Value) (he : e ∈ fields) : Json.Denotable room e.2 :=
    (Json.denotable_map_iff.mp h e he).2
  have hfound {name : String} {v : Value} (hv : RunRecord.required name fields = .ok v) :
      Json.Denotable room v :=
    Json.Denotable.find? hfields (lookup?_of_required hv)
  rw [RunRecord.ofValue] at hr
  obtain ⟨runId, hrunId, hr⟩ := exists_of_bind_ok hr
  obtain ⟨workflow, hworkflow, hr⟩ := exists_of_bind_ok hr
  obtain ⟨_, -, hr⟩ := exists_of_bind_ok hr
  obtain ⟨_, -, hr⟩ := exists_of_bind_ok hr
  obtain ⟨status, hstatus, hr⟩ := exists_of_bind_ok hr
  cases hr
  refine ⟨?_, ?_⟩
  · simpa [printedOf] using ⟨hfound hrunId, hfound hworkflow, hfound hstatus⟩
  · change ∃ room, Json.Denotable room ((Value.lookup? "steps" fields).getD (.list []))
    cases hsteps : Value.lookup? "steps" fields with
    | none => exact ⟨room + 1, .list nofun⟩
    | some v => exact ⟨room, Json.Denotable.find? hfields hsteps⟩

/-- The steps of a record are counted, or there is nothing to count. -/
theorem stepCount_cases {room : Nat} {v : Value} (h : Json.Denotable room v) :
    (∃ count, stepCount v = .ok count ∧ Counts v count) ∨
      stepCount v = .error (.wrongKind s!"object of type '{v.kind}' has no len()") ∧
        ∀ count, ¬Counts v count := by
  cases h with
  | list => exact .inl ⟨_, rfl, .list _⟩
  | map => exact .inl ⟨_, rfl, .map _⟩
  | string h =>
    rcases h with ⟨s, rfl⟩ | ⟨t, rfl⟩
    · exact .inl ⟨_, rfl, .str s⟩
    · exact .inl ⟨_, rfl, .rough t⟩
  | _ => exact .inr ⟨rfl, nofun⟩

theorem Counts.stepCount_eq {v : Value} {count : Nat} (h : Counts v count) :
    stepCount v = .ok count := by
  cases h <;> rfl

theorem isPrintable_iff {v : Value} : isPrintable v = true ↔ ¬IsRough v := by
  cases v <;> simp [isPrintable, IsRough]

/-- The line of a record whose steps can be counted, unless something in it cannot be printed. -/
theorem recordLine_eq {r : RunRecord} {runId workflow status : String} {count : Nat}
    (hrunId : r.runId.text = .ok runId) (hworkflow : r.workflow.text = .ok workflow)
    (hstatus : r.status.text = .ok status) (hcount : Counts r.steps count) :
    recordLine r = if (printedOf r).all isPrintable = true then
      .ok s!"{runId}  {workflow}  {status}  {count} step result(s)" else .error .unencodable := by
  rw [recordLine]
  dsimp only
  rw [hcount.stepCount_eq, hrunId, hworkflow, hstatus]
  rfl

/-- Why a file has no text: faults that a command foresees. -/
abbrev IsContent (content : Except Fault (List Char)) : Prop :=
  FailsOnly (fun e => isUnreadable e = true) content

/-- What is printed of a record that has been read has texts. -/
theorem exists_texts {cs : List Char} {fields : List (Value × Value)} {r : RunRecord}
    (hread : Json.read cs = .ok (.map fields)) (hr : RunRecord.ofValue (.map fields) = .ok r) :
    r.runId.HasText ∧ r.workflow.HasText ∧ r.status.HasText := by
  have hprinted := (denotable_of_ofValue (Json.denotable_of_read hread) hr).1
  have htext (v : Value) (hv : v ∈ printedOf r) : v.HasText :=
    (hprinted v hv).hasText (Nat.le_succ _)
  simpa [printedOf] using htext

/-- Every run log comes to something. -/
theorem exists_shows (content : Except Fault (List Char)) : ∃ a, Shows content a := by
  cases hcontent : content with
  | error e => exact ⟨_, .noText rfl⟩
  | ok cs =>
    rcases Json.read_cases cs with ⟨v, hread, hv⟩ | ⟨e, hread, -⟩
    · by_cases hmap : ∃ fields, v = .map fields
      · obtain ⟨fields, rfl⟩ := hmap
        cases hr : RunRecord.ofValue (.map fields) with
        | error e =>
          obtain ⟨key, rfl⟩ := ofValue_fails fields e hr
          exact ⟨_, .incomplete rfl hread hr⟩
        | ok r =>
          obtain ⟨-, _, hsteps⟩ := denotable_of_ofValue hv hr
          rcases stepCount_cases hsteps with ⟨count, -, hcounts⟩ | ⟨-, hnone⟩
          · obtain ⟨⟨runId, hrunId⟩, ⟨workflow, hworkflow⟩, ⟨status, hstatus⟩⟩ := exists_texts hread hr
            by_cases hrough : ∃ v ∈ printedOf r, IsRough v
            · exact ⟨_, .unprintable rfl hread hr hcounts hrough⟩
            · refine ⟨_, .record rfl hread hr hrunId hworkflow hstatus hcounts fun v hv hv' => ?_⟩
              exact hrough ⟨v, hv, hv'⟩
          · exact ⟨_, .uncounted rfl hread hr hnone⟩
      · exact ⟨_, .noMapping rfl hread fun fields hfields => hmap ⟨fields, hfields⟩⟩
    · by_cases hdeep : e = .tooDeep
      · exact ⟨_, .tooDeep rfl (hdeep ▸ hread)⟩
      · exact ⟨_, .noJson rfl hread hdeep⟩

theorem isUnreadable_of_refusal {e : Fault} (h : Json.Refusal e) (hdeep : e ≠ .tooDeep) :
    isUnreadable e = true := by
  cases h with
  | notJson => rfl
  | tooDeep => exact absurd rfl hdeep
  | number hf => exact decide_eq_true hf

theorem ofValue_of_no_mapping {v : Value} (h : ∀ fields, v ≠ .map fields) :
    RunRecord.ofValue v = .error (.wrongKind s!"a run record must be a mapping, not {v.kind}") := by
  cases v with
  | map fields => exact absurd rfl (h fields)
  | _ => rfl

theorem Shows.listed_eq {content : Except Fault (List Char)} (hcontent : IsContent content)
    {a : Listed} (h : Shows content a) : listed content = a := by
  unfold listed
  cases h with
  | record hcs hread hr hrunId hworkflow hstatus hcounts hsmooth =>
    subst hcs
    have hprintable := List.all_eq_true.mpr fun v hv => isPrintable_iff.mpr (hsmooth v hv)
    simp only [bind, Except.bind, hread, hr, recordLine_eq hrunId hworkflow hstatus hcounts,
      if_pos hprintable]
  | noText he =>
    subst he
    exact if_pos (hcontent _ rfl)
  | noJson hcs hread hdeep =>
    subst hcs
    simp only [bind, Except.bind, hread, isUnreadable_of_refusal (Json.refusal_of_read hread) hdeep]
    rfl
  | incomplete hcs hread hr =>
    subst hcs
    simp only [bind, Except.bind, hread, hr]
    rfl
  | tooDeep hcs hread =>
    subst hcs
    simp only [bind, Except.bind, hread]
    rfl
  | noMapping hcs hread hmap =>
    subst hcs
    simp only [bind, Except.bind, hread, ofValue_of_no_mapping hmap]
    rfl
  | @uncounted cs fields r hcs hread hr hnone =>
    subst hcs
    have hline : recordLine r =
        .error (.wrongKind s!"object of type '{r.steps.kind}' has no len()") := by
      obtain ⟨-, _, hsteps⟩ := denotable_of_ofValue (Json.denotable_of_read hread) hr
      rcases stepCount_cases hsteps with ⟨count, -, hcounts⟩ | ⟨herror, -⟩
      · exact absurd hcounts (hnone count)
      · rw [recordLine, herror]
        rfl
    simp only [bind, Except.bind, hread, hr, hline]
  | @unprintable cs fields r count hcs hread hr hcounts hrough =>
    subst hcs
    obtain ⟨⟨runId, hrunId⟩, ⟨workflow, hworkflow⟩, ⟨status, hstatus⟩⟩ := exists_texts hread hr
    have hprintable : ¬(printedOf r).all isPrintable = true := fun hall => by
      obtain ⟨v, hv, hv'⟩ := hrough
      exact isPrintable_iff.mp (List.all_eq_true.mp hall v hv) hv'
    simp only [bind, Except.bind, hread, hr, recordLine_eq hrunId hworkflow hstatus hcounts,
      if_neg hprintable]

/-- **A run log is shown as what it comes to**, and it comes to nothing else. -/
theorem shows_iff {content : Except Fault (List Char)} (hcontent : IsContent content) (a : Listed) :
    Shows content a ↔ listed content = a := by
  refine ⟨Shows.listed_eq hcontent, ?_⟩
  rintro rfl
  obtain ⟨a, ha⟩ := exists_shows content
  exact ha.listed_eq hcontent ▸ ha

/-! ### All run logs -/

/-- The text in the file of a run log, or why there is none. -/
def contentOf (out : Surroundings) (w : World) (file : Path) : Except Fault (List Char) :=
  ((readText file.text).perform out w).1

variable {d : SettingsDirectory} {out : Surroundings} {w w' : World} {file directory : Path}
  {settings : Settings}

theorem isContent_contentOf (out : Surroundings) (w : World) (file : Path) :
    IsContent (contentOf out w file) := by
  rintro e he
  unfold contentOf at he
  rcases readText_cases file.text out w with
    ⟨-, h⟩ | ⟨-, ⟨_, -, h⟩ | ⟨_, -, ⟨-, h⟩ | ⟨_, -, h⟩⟩⟩ <;> rw [h] at he <;> cases he <;> rfl

/-- The text of a file depends on the files only. -/
theorem contentOf_congr (h : w'.files = w.files) (file : Path) :
    contentOf out w' file = contentOf out w file := by
  rw [contentOf, contentOf, perform_readText_eq, perform_readText_eq, h]

/-- What is listed of a file. -/
def listedAt (out : Surroundings) (w : World) (file : Path) : Listed :=
  listed (contentOf out w file)

/-- The warning that a file is passed over. -/
def passing (file : Path) (reason : Fault) : LogLine :=
  let name := file.names.getLastD ""
  ⟨.warning, s!"Skipping unreadable run log {name}: {reason.message}"⟩

namespace Listed

/-- The line that is printed. -/
def line? : Listed → Option String
  | .line text => some text
  | _ => none

/-- The warning that is written to the log. -/
def warning? (file : Path) : Listed → Option LogLine
  | .passedOver reason => some (passing file reason)
  | _ => none

/-- Nothing leaves the command. -/
def Harmless (a : Listed) : Prop := ∀ e, a ≠ .escape e

end Listed

theorem listedAt_congr (h : w'.files = w.files) (file : Path) :
    listedAt out w' file = listedAt out w file := by
  rw [listedAt, contentOf_congr h, listedAt]

theorem perform_load (file : Path) (out : Surroundings) (w : World) :
    (RunRecord.load file.text).perform out w =
      (contentOf out w file >>= fun cs => Json.read cs >>= RunRecord.ofValue, w) :=
  perform_ofReadText _ _ _ _

/-- What is done with one run log. -/
theorem perform_printLog (file : Path) (out : Surroundings) (w : World) :
    (printLog file).perform out w =
      match listedAt out w file with
      | .line text => (.ok (), { w with printed := w.printed ++ [text] })
      | .passedOver reason => (.ok (), { w with logs := w.logs ++ [passing file reason] })
      | .escape e => (.error e, w) := by
  rw [printLog, perform_bind_of_ok (perform_attempt_ok_iff.mpr (perform_load file out w)), listedAt,
    listed]
  cases contentOf out w file >>= fun cs => Json.read cs >>= RunRecord.ofValue with
  | error e =>
    dsimp only
    by_cases hreadable : isUnreadable e = true
    · rw [if_pos hreadable, if_pos hreadable]
      rfl
    · rw [if_neg hreadable, if_neg hreadable]
      rfl
  | ok r =>
    dsimp only
    cases recordLine r with
    | error e => rfl
    | ok text => rfl

/-- The world after some files have been told of. -/
def told (out : Surroundings) (w : World) (files : List Path) : World :=
  { w with
    printed := w.printed ++ files.filterMap fun f => (listedAt out w f).line?
    logs := w.logs ++ files.filterMap fun f => (listedAt out w f).warning? f }

theorem told_cons {file : Path} (files : List Path) (h : (listedAt out w file).Harmless) :
    ∃ w', (printLog file).perform out w = (.ok (), w') ∧ w'.files = w.files ∧
      told out w' files = told out w (file :: files) := by
  have hsame {w' : World} (hfiles : w'.files = w.files) (f : Path) :
      listedAt out w' f = listedAt out w f := listedAt_congr hfiles f
  rw [perform_printLog]
  cases hlisted : listedAt out w file with
  | line text =>
    refine ⟨_, rfl, rfl, ?_⟩
    simp [told, hlisted, Listed.line?, Listed.warning?, hsame]
  | passedOver reason =>
    refine ⟨_, rfl, rfl, ?_⟩
    simp [told, hlisted, Listed.line?, Listed.warning?, hsame]
  | escape e => exact absurd hlisted (h e)

/-- **All files are told of** as far as nothing escapes, each by itself. -/
theorem perform_forM_printLog {before : List Path} (h : ∀ f ∈ before, (listedAt out w f).Harmless)
    (after : List Path) : ((before ++ after).forM printLog).perform out w =
      (after.forM printLog).perform out (told out w before) := by
  induction before generalizing w with
  | nil => simp [told]
  | cons file before ih =>
    obtain ⟨hfile, hbefore⟩ := List.forall_mem_cons.mp h
    obtain ⟨w', hprint, hfiles, htold⟩ := told_cons before hfile
    have hbefore' : ∀ f ∈ before, (listedAt out w' f).Harmless := fun f hf => by
      rw [listedAt_congr hfiles]
      exact hbefore f hf
    rw [List.cons_append, ← htold, ← ih hbefore']
    exact perform_bind_of_ok hprint _

/-! ### The command -/

/-- The names in a directory; none where there is no directory. -/
def namesIn (out : Surroundings) (w : World) (directory : Path) : List String :=
  if '\x00' ∈ directory.text.toList then []
  else (w.files.list out.workspace.names directory.text).toOption.getD []

/-- The run logs in a directory, by their names: all that are there, newest first. -/
def NewestFirst (out : Surroundings) (w : World) (directory : Path) (files : List Path) : Prop :=
  ∃ names : List String, files = names.map (fun n => ⟨directory.root, directory.names ++ [n]⟩) ∧
    names.Pairwise (· ≥ ·) ∧ names.Perm ((namesIn out w directory).filter RunLog.isLogName)

theorem newestFirst_reverse (names : List String) :
    (sortedTexts names).reverse.Pairwise (· ≥ ·) ∧ (sortedTexts names).reverse.Perm names :=
  ⟨List.pairwise_reverse.mpr (pairwise_sortedTexts names),
    (List.reverse_perm _).trans (List.mergeSort_perm _ _)⟩

/-- Only directories have names in them. -/
theorem look?_or_list (t : FileTree) (here : List String) (path : String) :
    t.look? here path = .ok (some .directory) ∨ ∃ cause, t.list here path = .error cause := by
  unfold FileTree.look? FileTree.list
  cases t.stat here path with
  | error cause => exact .inr ⟨cause, rfl⟩
  | ok e =>
    cases e with
    | directory => exact .inl rfl
    | file bytes => exact .inr ⟨.notDirectory, rfl⟩

/-- The run logs in a directory are found by their names. -/
theorem perform_files {all : List String} (hnul : '\x00' ∉ directory.text.toList)
    (hlist : w.files.list out.workspace.names directory.text = .ok all) :
    (RunLog.files directory).perform out w =
      (.ok ((sortedTexts (all.filter RunLog.isLogName)).reverse.map fun n =>
        ⟨directory.root, directory.names ++ [n]⟩), w) := by
  have hlook := (look?_or_list w.files out.workspace.names directory.text).resolve_right fun h => by
    obtain ⟨cause, h⟩ := h
    cases hlist.symm.trans h
  rw [RunLog.files, perform_bind, perform_isDirectory, if_neg hnul]
  simp only [hlook, mapError_ok, Except.map, decide_true, if_true, perform_bind, perform_get,
    perform_here, hlist]
  rfl

theorem newestFirst_of_files {files : List Path}
    (h : (RunLog.files directory).perform out w = (.ok files, w)) :
    NewestFirst out w directory files := by
  have hnone (hnames : namesIn out w directory = []) (hfiles : files = []) :
      NewestFirst out w directory files :=
    ⟨[], hfiles, .nil, by rw [hnames]; exact .nil⟩
  by_cases hnul : '\x00' ∈ directory.text.toList
  · rw [RunLog.files, perform_bind, perform_isDirectory, if_pos hnul] at h
    cases h
    exact hnone (if_pos hnul) rfl
  · cases hlist : w.files.list out.workspace.names directory.text with
    | ok all =>
      rw [perform_files hnul hlist] at h
      cases h
      obtain ⟨hsorted, hperm⟩ := newestFirst_reverse (all.filter RunLog.isLogName)
      refine ⟨_, rfl, hsorted, ?_⟩
      rwa [namesIn, if_neg hnul, hlist]
    | error cause =>
      refine hnone (by rw [namesIn, if_neg hnul, hlist]; rfl) ?_
      rw [RunLog.files, perform_bind, perform_isDirectory, if_neg hnul] at h
      cases hlook : w.files.look? out.workspace.names directory.text with
      | error cause =>
        rw [hlook] at h
        cases h
      | ok found =>
        simp only [hlook, mapError_ok, Except.map] at h
        split at h
        · simp only [perform_bind, perform_get, perform_here, hlist] at h
          cases h
          rfl
        · cases h
          rfl

/-- **What the list of run logs tells**, once the settings are loaded. -/
structure ListsLogs (d : SettingsDirectory) (settings : Settings) (out : Surroundings) (w : World) :
    Prop where
  /-- The directory of run logs lies in a home that is not known. -/
  homeless : ∀ {e}, (d.logDirectory settings).perform out w = (.error e, w) →
    (showLogs d false).perform out w = (.error e, w)
  unreachable : ∀ {directory e}, (d.logDirectory settings).perform out w = (.ok directory, w) →
    (RunLog.files directory).perform out w = (.error e, w) →
    (showLogs d false).perform out w = (.error e, w)
  newestFirst : ∀ {directory files}, (RunLog.files directory).perform out w = (.ok files, w) →
    NewestFirst out w directory files
  empty : ∀ {directory}, (d.logDirectory settings).perform out w = (.ok directory, w) →
    (RunLog.files directory).perform out w = (.ok [], w) →
    (showLogs d false).perform out w =
      (.ok 0, { w with printed := w.printed ++ [s!"No run logs in {directory.text}"] })
  /-- What is told of a file is a matter of its own content. -/
  shows : ∀ file a, listedAt out w file = a ↔ Shows (contentOf out w file) a
  /-- Nothing escapes: there is a line or a warning for each file. -/
  listed : ∀ {directory files}, (d.logDirectory settings).perform out w = (.ok directory, w) →
    (RunLog.files directory).perform out w = (.ok files, w) → files ≠ [] →
    (∀ f ∈ files, (listedAt out w f).Harmless) →
    (showLogs d false).perform out w = (.ok 0, told out w files)
  escaped : ∀ {directory before file after e},
    (d.logDirectory settings).perform out w = (.ok directory, w) →
    (RunLog.files directory).perform out w = (.ok (before ++ file :: after), w) →
    (∀ f ∈ before, (listedAt out w f).Harmless) → listedAt out w file = .escape e →
    (showLogs d false).perform out w = (.error e, told out w before)
  returns_iff : ∀ {directory files}, (d.logDirectory settings).perform out w = (.ok directory, w) →
    (RunLog.files directory).perform out w = (.ok files, w) →
    ((∃ w', (showLogs d false).perform out w = (.ok 0, w')) ↔
      ∀ f ∈ files, (listedAt out w f).Harmless)

/-- The directory of run logs is known, or the home directory is not. -/
theorem foreign_of_logDirectory {e : Fault}
    (h : (d.logDirectory settings).perform out w = (.error e, w')) :
    ∃ label message, e = .foreign label message := by
  unfold SettingsDirectory.logDirectory at h
  split at h
  · cases h
  · cases h
  · exact expandHome_error h

/-- The list of the run logs in a directory. -/
theorem perform_showLogs (hsettings : (d.load Yaml.read).perform out w = (.ok settings, w))
    (hdirectory : (d.logDirectory settings).perform out w = (.ok directory, w)) :
    (showLogs d false).perform out w = (do
      let files ← RunLog.files directory
      if files = [] then
        printLine s!"No run logs in {directory.text}"
        return 0
      else
        files.forM printLog
        return 0 : Act Nat).perform out w := by
  have hfound : (do d.logDirectory (← d.load Yaml.read) : Act Path).perform out w =
      (.ok directory, w) := (perform_bind_of_ok hsettings _).trans hdirectory
  rw [showLogs, perform_bind_of_ok (perform_attempt_ok_iff.mpr hfound)]
  dsimp only
  rw [perform_bind, perform_bind]
  rcases (RunLog.files directory).perform out w with ⟨_ | files, w'⟩
  · rfl
  · cases files <;> rfl

/-- All elements have a property, or there is a first one that has not. -/
theorem forall_or_first {α : Type} {P : α → Prop} (xs : List α) :
    (∀ x ∈ xs, P x) ∨ ∃ before x after, xs = before ++ x :: after ∧ (∀ y ∈ before, P y) ∧ ¬P x := by
  induction xs with
  | nil => exact .inl nofun
  | cons x xs ih =>
    by_cases hx : P x
    · rcases ih with h | ⟨before, y, after, rfl, hbefore, hy⟩
      · exact .inl (List.forall_mem_cons.mpr ⟨hx, h⟩)
      · exact .inr ⟨x :: before, y, after, rfl, List.forall_mem_cons.mpr ⟨hx, hbefore⟩, hy⟩
    · exact .inr ⟨[], x, xs, rfl, nofun, hx⟩

/-- The list is complete when nothing escapes. -/
theorem showLogs_of_harmless {files : List Path}
    (hsettings : (d.load Yaml.read).perform out w = (.ok settings, w))
    (hdirectory : (d.logDirectory settings).perform out w = (.ok directory, w))
    (hfiles : (RunLog.files directory).perform out w = (.ok files, w)) (hne : files ≠ [])
    (h : ∀ f ∈ files, (listedAt out w f).Harmless) :
    (showLogs d false).perform out w = (.ok 0, told out w files) := by
  have hall := perform_forM_printLog h []
  rw [List.append_nil] at hall
  rw [perform_showLogs hsettings hdirectory, perform_bind_of_ok hfiles, if_neg hne, perform_bind,
    hall]
  rfl

/-- The first file that something escapes from ends the list. -/
theorem showLogs_of_escape {before after : List Path} {e : Fault}
    (hsettings : (d.load Yaml.read).perform out w = (.ok settings, w))
    (hdirectory : (d.logDirectory settings).perform out w = (.ok directory, w))
    (hfiles : (RunLog.files directory).perform out w = (.ok (before ++ file :: after), w))
    (hbefore : ∀ f ∈ before, (listedAt out w f).Harmless)
    (hfile : listedAt out w file = .escape e) :
    (showLogs d false).perform out w = (.error e, told out w before) := by
  have hend : ((file :: after).forM printLog).perform out (told out w before) =
      (.error e, told out w before) := by
    have hsame : (told out w before).files = w.files := rfl
    have hfile' := (listedAt_congr hsame file).trans hfile
    refine perform_bind_of_error ?_ _
    rw [perform_printLog, hfile']
  rw [perform_showLogs hsettings hdirectory, perform_bind_of_ok hfiles, if_neg (by simp),
    perform_bind, perform_forM_printLog hbefore, hend]

/-- **The list of run logs is told file by file**, and comes to an end unless something escapes. -/
theorem lists_logs (hsettings : (d.load Yaml.read).perform out w = (.ok settings, w)) :
    ListsLogs d settings out w where
  homeless {e} he := by
    have hfound : (do d.logDirectory (← d.load Yaml.read) : Act Path).perform out w =
        (.error e, w) := (perform_bind_of_ok hsettings _).trans he
    rw [showLogs, perform_bind_of_ok (perform_attempt_ok_iff.mpr hfound)]
    cases e with
    | settings f =>
      obtain ⟨_, _, h⟩ := foreign_of_logDirectory he
      cases h
    | _ => rfl
  unreachable hdirectory hfiles := by
    rw [perform_showLogs hsettings hdirectory, perform_bind_of_error hfiles]
  newestFirst := newestFirst_of_files
  empty hdirectory hfiles := by
    rw [perform_showLogs hsettings hdirectory, perform_bind_of_ok hfiles]
    rfl
  shows file a := (shows_iff (isContent_contentOf out w file) a).symm
  listed := showLogs_of_harmless hsettings
  escaped := showLogs_of_escape hsettings
  returns_iff {directory files} hdirectory hfiles := by
    constructor
    · rintro ⟨w', hreturned⟩
      rcases forall_or_first files with h | ⟨before, file, after, rfl, hbefore, hfile⟩
      · exact h
      · simp only [Listed.Harmless, not_forall, not_not] at hfile
        obtain ⟨e, he⟩ := hfile
        cases hreturned.symm.trans
          (showLogs_of_escape hsettings hdirectory hfiles hbefore he)
    · intro hharmless
      rcases files.eq_nil_or_concat with rfl | ⟨_, _, rfl⟩
      · rw [perform_showLogs hsettings hdirectory, perform_bind_of_ok hfiles]
        exact ⟨_, rfl⟩
      · exact ⟨_, showLogs_of_harmless hsettings hdirectory hfiles (by simp) hharmless⟩

/-! ### Two run logs -/

/-- The text of a record. -/
def finished : String :=
  "\x7b\"run_id\": \"r\", \"workflow_name\": \"w\", \"started_at\": \"\", \"updated_at\": \"\", " ++
    "\"status\": \"completed\"\x7d"

/-- A directory of two run logs, of which the one with the later name has a given content. -/
def twoLogs (later : String) : World where
  files := ⟨[(["settings"], .directory), (["settings", "logs"], .directory),
    (["settings", "logs", "a.json"], .file (Text.Utf8.encode finished.toList)),
    (["settings", "logs", "b.json"], .file (Text.Utf8.encode later.toList))]⟩

def twoLogsDirectory : SettingsDirectory := ⟨⟨"/", ["settings"]⟩⟩

theorem settings_twoLogs (later : String) :
    (twoLogsDirectory.load Yaml.read).perform .silent (twoLogs later) =
      (.ok twoLogsDirectory.defaults, twoLogs later) := by
  rfl

theorem logDirectory_twoLogs (later : String) :
    (twoLogsDirectory.logDirectory twoLogsDirectory.defaults).perform .silent (twoLogs later) =
      (.ok ⟨"/", ["settings", "logs"]⟩, twoLogs later) := by
  rfl

theorem files_twoLogs (later : String) :
    (RunLog.files ⟨"/", ["settings", "logs"]⟩).perform .silent (twoLogs later) =
      (.ok [⟨"/", ["settings", "logs", "b.json"]⟩, ⟨"/", ["settings", "logs", "a.json"]⟩],
        twoLogs later) := by
  have hsorted : sortedTexts ["a.json", "b.json"] = ["a.json", "b.json"] :=
    List.mergeSort_of_pairwise (by decide)
  have hfound : (isDirectory (Path.mk "/" ["settings", "logs"]).text).perform .silent
      (twoLogs later) = (.ok true, twoLogs later) := rfl
  have hlist : (twoLogs later).files.list Surroundings.silent.workspace.names
      (Path.mk "/" ["settings", "logs"]).text = .ok ["a.json", "b.json"] := rfl
  rw [RunLog.files, perform_bind_of_ok hfound]
  simp only [if_true, perform_bind, perform_get, perform_here, hlist]
  have hnames : ["a.json", "b.json"].filter RunLog.isLogName = ["a.json", "b.json"] := by decide
  rw [hnames, hsorted]
  rfl

theorem contentOf_twoLogs (later : String) :
    contentOf .silent (twoLogs later) ⟨"/", ["settings", "logs", "b.json"]⟩ =
        .ok (Text.normalizeNewlines later.toList) ∧
      contentOf .silent (twoLogs later) ⟨"/", ["settings", "logs", "a.json"]⟩ =
        .ok (Text.normalizeNewlines finished.toList) := by
  constructor
  · exact congrArg Prod.fst (perform_readText (by decide) rfl (Text.Utf8.decode?_encode _))
  · exact congrArg Prod.fst (perform_readText (by decide) rfl (Text.Utf8.decode?_encode _))

/-- The log with the earlier name is readable. -/
theorem listedAt_finished (later : String) :
    listedAt .silent (twoLogs later) ⟨"/", ["settings", "logs", "a.json"]⟩ =
      .line "r  w  completed  0 step result(s)" := by
  rw [listedAt, (contentOf_twoLogs later).2]
  have hline : (listed (.ok (Text.normalizeNewlines finished.toList))).line? =
      some "r  w  completed  0 step result(s)" := by
    decide +kernel
  cases hlisted : listed (.ok (Text.normalizeNewlines finished.toList)) with
  | line text =>
    rw [hlisted] at hline
    exact congrArg Listed.line (Option.some.inj hline)
  | _ => rw [hlisted] at hline; cases hline

/-- A log without the fields of a record is passed over. -/
theorem lists_logs_incomplete :
    (twoLogsDirectory.load Yaml.read).perform .silent (twoLogs "\x7b\x7d") =
        (.ok twoLogsDirectory.defaults, twoLogs "\x7b\x7d") ∧
      ∃ w', (showLogs twoLogsDirectory false).perform .silent (twoLogs "\x7b\x7d") = (.ok 0, w') ∧
        w'.printed = ["r  w  completed  0 step result(s)"] ∧
        w'.logs = [⟨.warning, "Skipping unreadable run log b.json: 'run_id'"⟩] := by
  have hlists := lists_logs (settings_twoLogs "\x7b\x7d")
  have hlater : listedAt .silent (twoLogs "\x7b\x7d") ⟨"/", ["settings", "logs", "b.json"]⟩ =
      .passedOver (.missingKey "'run_id'") := by
    rw [listedAt, (contentOf_twoLogs _).1]
    rfl
  have hearlier := listedAt_finished "\x7b\x7d"
  refine ⟨settings_twoLogs _, _, hlists.listed (logDirectory_twoLogs _) (files_twoLogs _)
    (by simp) ?_, ?_, ?_⟩
  · simp [Listed.Harmless, hlater, hearlier]
  · simp only [told, hlater, hearlier, Listed.line?, List.filterMap_cons, List.filterMap_nil]
    rfl
  · simp only [told, hlater, hearlier, Listed.warning?, List.filterMap_cons, List.filterMap_nil]
    rfl

/-- **A run log that holds no mapping hides the others.** -/
theorem not_listed_bracketed :
    (twoLogsDirectory.load Yaml.read).perform .silent (twoLogs "[]") =
        (.ok twoLogsDirectory.defaults, twoLogs "[]") ∧
      Shows (contentOf .silent (twoLogs "[]") ⟨"/", ["settings", "logs", "a.json"]⟩)
        (.line "r  w  completed  0 step result(s)") ∧
      ∃ w', (showLogs twoLogsDirectory false).perform .silent (twoLogs "[]") =
          (.error (.wrongKind "a run record must be a mapping, not list"), w') ∧
        w'.printed = [] := by
  have hlater : listedAt .silent (twoLogs "[]") ⟨"/", ["settings", "logs", "b.json"]⟩ =
      .escape (.wrongKind "a run record must be a mapping, not list") := by
    rw [listedAt, (contentOf_twoLogs _).1]
    rfl
  have hearlier := (shows_iff (isContent_contentOf _ _ _) _).mpr (listedAt_finished "[]")
  have hescaped : (showLogs twoLogsDirectory false).perform .silent (twoLogs "[]") =
      (.error (.wrongKind "a run record must be a mapping, not list"),
        told .silent (twoLogs "[]") []) :=
    showLogs_of_escape (settings_twoLogs _) (logDirectory_twoLogs _) (files_twoLogs _) nofun hlater
  exact ⟨settings_twoLogs _, hearlier, _, hescaped, rfl⟩

end Command

end StepFlow
