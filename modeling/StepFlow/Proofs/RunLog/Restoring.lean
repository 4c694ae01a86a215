import StepFlow.Proofs.Json.Restoring
import StepFlow.Proofs.Run.Shell
import StepFlow.Proofs.RunLog.Writing
import StepFlow.Proofs.Settings.Storing

/-!
# Records restored from their files

A record that has been written for a run is loaded again as it was. Its variables are made of the
kinds of JSON, and so is what attempts leave: an output, and for a failure its kind, its message and
details of strings and one exit code. So the text of the record is read again as the mapping that
was written, and all that is left is to find the fields in it. A halted step or an error that is
missing there is null.

Nothing is asked of the texts in a record. What would be lost in a file, such as a carriage return,
is written as an escape.

## Main definitions

* `StepResult.Attempted` — an attempt has left a result
* `RunRecord.Storable` — the record of a run with variables from JSON
* `RunRecord.Restored` — what a record is written for

## Main results

* `Step.native_of_execute` — what an attempt leaves is made of the kinds of JSON
* `RunLog.read_of_save` — a log that has been written is read where it lies
* `RunRecord.exists_frames` — the time of the last update has a place of its own in the text
* `RunRecord.Storable.restored` — the record of a run is restored from its file
-/

namespace StepFlow

open Json (Native)

/-! ### Results -/

/-- Details under different names, each of them a string or an integer. -/
theorem native_details {fields : Fields Value} (hnames : (fields.map (·.1)).Nodup)
    (h : ∀ f ∈ fields, (∃ s, f.2 = .str s) ∨ ∃ n, f.2 = .int n) : Native (.ofFields fields) := by
  refine .fields hnames fun f hf => ?_
  rcases h f hf with ⟨s, hs⟩ | ⟨n, hn⟩
  · rw [hs]
    exact .str s
  · rw [hn]
    exact .int n

namespace Step

variable {s : Step} {settings : Settings} {scope : Scope} {type : StepType} {index number : Nat}
  {out : Surroundings} {w w' : World} {e : StepError} {x : StepResult}

theorem native_agentFailure {fault : Fault} (h : s.agentFailure settings fault = .error e) :
    Native e.context := by
  cases h
  exact native_details (by simp) (by simp)

theorem native_commandOutcome {command : String} {r : CommandResult}
    (h : commandOutcome command r = .error e) : Native e.context := by
  unfold commandOutcome at h
  split at h
  · cases h
  · cases h
    exact native_details (by simp) (by simp)

theorem native_of_askAgent (h : (s.askAgent settings scope).perform out w = (.ok (.error e), w')) :
    Native e.context := by
  unfold askAgent at h
  split at h
  · cases h
    exact native_details (by decide) nofun
  obtain ⟨created, w₁, -, h⟩ := Act.perform_bind_ok_iff.mp h
  cases created with
  | error fault =>
    cases h
    exact native_agentFailure rfl
  | ok agent =>
    obtain ⟨context, w₂, -, h⟩ := Act.perform_bind_ok_iff.mp h
    obtain ⟨prompt, w₃, -, h⟩ := Act.perform_bind_ok_iff.mp h
    obtain ⟨answer, w₄, -, h⟩ := Act.perform_bind_ok_iff.mp h
    cases answer with
    | error fault =>
      cases h
      exact native_agentFailure rfl
    | ok response =>
      dsimp only at h
      split at h
      · obtain ⟨_, _, -, h⟩ := Act.perform_bind_ok_iff.mp h
        cases h
      · cases h

theorem native_of_runShell (h : (s.runShell scope).perform out w = (.ok (.error e), w')) :
    Native e.context := by
  unfold runShell at h
  split at h
  · cases h
    exact native_details (by decide) nofun
  obtain ⟨command, w₁, -, h⟩ := Act.perform_bind_ok_iff.mp h
  obtain ⟨r, w₂, -, h⟩ := Act.perform_bind_ok_iff.mp h
  exact native_commandOutcome (Except.ok.inj (congrArg Prod.fst h))

theorem native_of_act (h : (s.act settings scope type).perform out w = (.ok (.error e), w')) :
    Native e.context := by
  cases type with
  | agent => exact native_of_askAgent h
  | command => exact native_of_runShell h
  | approval => cases h

/-- **What an attempt leaves is made of the kinds of JSON.** -/
theorem native_of_execute
    (h : (s.execute settings scope index number).perform out w = (.ok x, w')) :
    Native x.toValue := by
  obtain ⟨type, htype⟩ := exists_type_of_execute_ok h
  obtain ⟨y, w₁, hy, -, -, -, hshows, -⟩ :=
    perform_execute htype settings scope index number out w
  cases h.symm.trans hy
  have herror : ∀ e, x.error = some e → Native e.toValue := by
    intro e he
    have hcontext : Native e.context := by
      rcases hact : (s.act settings scope type).perform out w.ticked with
        ⟨fault | failed | output, w₂⟩
      · rw [hact] at hshows
        cases hshows.1.symm.trans he
        exact native_details (by simp) (by simp)
      · rw [hact] at hshows
        cases hshows.1.symm.trans he
        exact native_of_act hact
      · rw [hact] at hshows
        cases hshows.1.symm.trans he
    exact .fields (by simp) (by simp [hcontext, Native.str])
  rw [StepResult.toValue]
  cases hx : x.error with
  | none => exact .fields (by simp) (by simp [Native.str, Native.int, Native.bool])
  | some e => exact .fields (by simp) (by simp [Native.str, Native.int, Native.bool, herror e hx])

end Step

/-! ### Records and their values -/

/-- A result that an attempt of some step has left. -/
def StepResult.Attempted (x : StepResult) : Prop :=
  ∃ (s : Step) (settings : Settings) (scope : Scope) (index number : Nat) (out : Surroundings)
    (w w' : World), (s.execute settings scope index number).perform out w = (.ok x, w')

theorem StepResult.Attempted.native {x : StepResult} (h : x.Attempted) : Native x.toValue := by
  obtain ⟨s, settings, scope, index, number, out, w, w', h⟩ := h
  exact Step.native_of_execute h

namespace RunRecord

variable {r : RunRecord}

/-- **The record of a run with variables from JSON.** -/
structure Storable (r : RunRecord) : Prop where
  texts : ∀ v ∈ [r.runId, r.workflow, r.input, r.startedAt, r.updatedAt, r.status], ∃ s, v = .str s
  vars : Native r.vars
  steps : ∃ results : List StepResult, r.steps = .list (results.map StepResult.toValue) ∧
    ∀ x ∈ results, x.Attempted
  haltedStep : r.haltedStep = .null ∨ ∃ s, r.haltedStep = .str s
  error : r.error = .null ∨ ∃ s, r.error = .str s

theorem unlessNull_eq (name : String) (v : Value) :
    (v = .null ∧ unlessNull name v = []) ∨ unlessNull name v = [(name, v)] := by
  cases v <;> first | exact .inr rfl | exact .inl ⟨rfl, rfl⟩

/-- A record is found in the mapping that it is stored as. -/
theorem ofValue_toValue (r : RunRecord) : ofValue r.toValue = .ok r := by
  obtain ⟨runId, workflow, input, startedAt, updatedAt, status, vars, steps, haltedStep, error⟩ := r
  rw [toValue]
  dsimp only
  rcases unlessNull_eq "halted_step" haltedStep with ⟨rfl, hhalted⟩ | hhalted <;>
    rcases unlessNull_eq "error" error with ⟨rfl, herror⟩ | herror <;>
      rw [hhalted, herror] <;> rfl

theorem Storable.native (h : r.Storable) : Native r.toValue := by
  obtain ⟨results, hsteps, hresults⟩ := h.steps
  have htext : ∀ v ∈ [r.runId, r.workflow, r.input, r.startedAt, r.updatedAt, r.status],
      Native v := by
    intro v hv
    obtain ⟨s, rfl⟩ := h.texts v hv
    exact .str s
  have hoptional (v : Value) (hv : v = .null ∨ ∃ s, v = .str s) : Native v := by
    rcases hv with rfl | ⟨s, rfl⟩
    · exact .null
    · exact .str s
  have hlist : Native r.steps := by
    rw [hsteps]
    refine .list fun v hv => ?_
    obtain ⟨x, hx, rfl⟩ := List.mem_map.mp hv
    exact (hresults x hx).native
  have hhalted := hoptional _ h.haltedStep
  have herror := hoptional _ h.error
  have hvars := h.vars
  rw [toValue]
  rcases unlessNull_eq "halted_step" r.haltedStep with ⟨-, hhalted'⟩ | hhalted' <;>
    rcases unlessNull_eq "error" r.error with ⟨-, herror'⟩ | herror' <;>
      rw [hhalted', herror'] <;>
        exact .fields (by simp) (by simp [htext, hlist, hvars, hhalted, herror])

end RunRecord

/-! ### What has been saved -/

namespace RunLog

variable {l : RunLog} {out : Surroundings} {w w' : World}

/-- A log that has been written is read where it lies. -/
theorem read_of_save (hlog : w.runLog = some l) (h : save.perform out w = (.ok (), w')) :
    ∃ text,
      Json.write .indented { l with updatedAt := out.clock w.readings }.record.toValue = .ok text ∧
      '\x00' ∉ l.file.text.toList ∧
      w'.files.read out.workspace.names l.file.text = .ok (Text.Utf8.encode text.toList) := by
  rw [save, Act.perform_bind_of_ok (Act.perform_now _ _),
    Act.perform_bind_of_ok (perform_update _ _ _), Act.perform_bind_of_ok (Act.perform_get _ _)] at h
  simp only [World.ticked, hlog, Option.map_some] at h
  obtain ⟨place, w₁, hopen, h⟩ := Act.perform_bind_ok_iff.mp h
  obtain ⟨hnul, hwritable, rfl⟩ := Act.openForWriting_ok hopen
  obtain ⟨text, w₂, htext, h⟩ := Act.perform_bind_ok_iff.mp h
  rw [Act.perform_ofExcept, Prod.mk.injEq] at htext
  obtain ⟨htext, rfl⟩ := htext
  obtain ⟨_, w₃, hchange, h⟩ := Act.perform_bind_ok_iff.mp h
  rw [Act.perform_change_eq, Prod.mk.injEq] at hchange
  obtain ⟨-, rfl⟩ := hchange
  obtain ⟨source, target, hsource, htarget, rfl⟩ := Act.renameFile_ok h
  refine ⟨text, htext, fun hmem => hnul (mem_temporaryFile (by decide) hmem), ?_⟩
  obtain rfl : source = place :=
    (FileTree.locate_eq_ok hsource).trans (FileTree.writable_eq_ok hwritable).symm
  obtain ⟨hlocate, hfree⟩ := FileTree.locate_of_writable htarget
  have hsource' : source ≠ [] := by
    rintro rfl
    exact (FileTree.locate_of_writable hwritable).2 rfl
  have htarget' : target ≠ [] := by
    rintro rfl
    exact hfree rfl
  have hfilled := FileTree.get?_put_self (w.files.put source (.file [])) hsource'
    (.file (Text.Utf8.encode text.toList))
  have hlast : l.file.text.toList.getLast? ≠ some '/' := by
    rw [getLast?_file]
    decide
  exact FileTree.read_of_locate ((FileTree.keepsDirectories_rename hfilled hfree).locate hlocate) hlast
    (FileTree.get?_apply_rename hfilled htarget')

end RunLog

namespace RunRecord

variable {r : RunRecord}

/-- The text of a record but for the time of its last update. -/
def Frames (r : RunRecord) (start stop : List Char) : Prop :=
  ∀ time : String, Json.write .indented { r with updatedAt := .str time }.toValue =
    .ok (String.ofList (start ++ Json.string true time.toList ++ stop))

/-- **What a record is written for.** -/
structure Restored (r : RunRecord) : Prop where
  /-- It can be written, if its integers are short and its collections do not lie too deep. -/
  written : r.toValue.Short → r.toValue.nesting ≤ nestingLimit →
    ∃ text, Json.write .indented r.toValue = .ok text
  /-- It is loaded from any file that holds its text. -/
  loaded : ∀ {text path out w}, Json.write .indented r.toValue = .ok text →
    '\x00' ∉ path.toList →
    w.files.read out.workspace.names path = .ok (Text.Utf8.encode text.toList) →
    (load path).perform out w = (.ok r, w)
  /-- It is loaded from the file of a log that has been saved with it. -/
  saved : ∀ {l out w w'}, w.runLog = some l →
    { l with updatedAt := out.clock w.readings }.record = r →
    RunLog.save.perform out w = (.ok (), w') → (load l.file.text).perform out w' = (.ok r, w')
  /-- Written another time, it has the same text but for the time of the update. -/
  rewritten : ∀ {text}, Json.write .indented r.toValue = .ok text →
    ∃ start stop time, r.updatedAt = .str time ∧ r.Frames start stop ∧
      ∀ {l out w w'}, w.runLog = some l →
        { l with updatedAt := out.clock w.readings }.record =
          { r with updatedAt := .str (out.clock w.readings).iso } →
        RunLog.save.perform out w = (.ok (), w') →
        w'.files.read out.workspace.names l.file.text = .ok (Text.Utf8.encode
          (start ++ Json.string true (out.clock w.readings).iso.toList ++ stop))

theorem Storable.perform_load (h : r.Storable) {text path : String} {out : Surroundings} {w : World}
    (htext : Json.write .indented r.toValue = .ok text) (hnul : '\x00' ∉ path.toList)
    (hread : w.files.read out.workspace.names path = .ok (Text.Utf8.encode text.toList)) :
    (load path).perform out w = (.ok r, w) := by
  rw [load, Act.perform_bind_of_ok (Act.perform_readText hnul hread (Text.Utf8.decode?_encode _)),
    Act.perform_ofExcept, Text.normalizeNewlines_eq_self (Json.not_mem_of_write h.native htext),
    Json.read_write h.native htext]
  exact congrArg (·, w) (ofValue_toValue r)

/-- The time of the last update has a place of its own in the text of a record. -/
theorem exists_frames {text time : String} (htime : r.updatedAt = .str time)
    (h : Json.write .indented r.toValue = .ok text) : ∃ start stop, r.Frames start stop := by
  obtain ⟨before, after, hentries⟩ : ∃ before after, ∀ u, { r with updatedAt := .str u }.toValue =
      .map (before ++ (.str "updated_at", .str u) :: after) := by
    refine ⟨[(.str "run_id", r.runId), (.str "workflow_name", r.workflow), (.str "input", r.input),
      (.str "started_at", r.startedAt)], ([("status", r.status), ("variables", r.vars),
      ("steps", r.steps)] ++ unlessNull "halted_step" r.haltedStep ++
        unlessNull "error" r.error).map fun f => (.str f.1, f.2), fun u => ?_⟩
    simp [toValue, Value.ofFields]
  have hr : r.toValue = .map (before ++ (.str "updated_at", .str time) :: after) := by
    rw [← hentries, ← htime]
  rw [hr] at h
  obtain ⟨start, stop, hframe⟩ := Json.exists_write_eq h
  exact ⟨start, stop, fun u => by rw [hentries]; exact hframe u⟩

/-- **The record of a run is restored from its file.** -/
theorem Storable.restored (h : r.Storable) : r.Restored where
  written := Json.exists_write h.native
  loaded := h.perform_load
  saved {l out w w'} hlog hrecord hsave := by
    obtain ⟨text, htext, hnul, hread⟩ := RunLog.read_of_save hlog hsave
    exact h.perform_load (hrecord ▸ htext) hnul hread
  rewritten {text} htext := by
    obtain ⟨time, htime⟩ := h.texts r.updatedAt (by simp)
    obtain ⟨start, stop, hframe⟩ := exists_frames htime htext
    refine ⟨start, stop, time, htime, hframe, fun {l out w w'} hlog hrecord hsave => ?_⟩
    obtain ⟨text', htext', -, hread⟩ := RunLog.read_of_save hlog hsave
    rw [hrecord, hframe, Except.ok.injEq] at htext'
    rw [hread, ← htext', String.toList_ofList]

end RunRecord

/-- A step whose command is not started where nothing answers. -/
def Step.unstarted : Step where
  name := "list"
  type := .str "command"
  command := some "ls"

theorem Step.exists_attempted_unstarted : ∃ x : StepResult, x.Attempted ∧ x.index = 0 ∧
    x.attempt = 1 ∧ x.durationMs = 0 ∧ x.error = some (commandError "command_failed" "ls" 1 "") := by
  have hlasts : (((unstarted.execute {} ⟨"", [], []⟩ 0 1).perform .silent {}).1.toOption.map
      StepResult.durationMs) = some 0 := by
    decide +kernel
  obtain ⟨x, w', hx, hduration⟩ := Act.exists_ok_of_map hlasts
  have htype : unstarted.type? = some .command := by decide
  obtain ⟨y, w₁, hy, -, hindex, hattempt, hshows, -⟩ :=
    perform_execute htype {} ⟨"", [], []⟩ 0 1 Surroundings.silent {}
  cases hx.symm.trans hy
  refine ⟨x, ⟨_, _, _, _, _, _, _, _, hx⟩, hindex, hattempt, hduration, ?_⟩
  have hact : ((unstarted.act {} ⟨"", [], []⟩ .command).perform Surroundings.silent
      (World.ticked {})).1 = .ok (.error (commandError "command_failed" "ls" 1 "")) := by
    rfl
  rw [hact] at hshows
  exact hshows.1

/-- A record that breaks off after an attempt. -/
def RunRecord.brokenOff (x : StepResult) : RunRecord where
  runId := .str "20250102T030405Z-a1b2c3"
  workflow := .str "daily"
  input := .str "\x1f \r\n \"\\\" 😀"
  startedAt := .str "2025-01-02T03:04:05+00:00"
  updatedAt := .str "2025-01-02T03:04:06+00:00"
  status := .str "failed"
  vars := .ofFields [("ä", .list [.null, .bool true, .int (-3)]), ("", .ofFields [])]
  steps := .list [x.toValue]
  error := .str "interrupted"

theorem RunRecord.restored_brokenOff : ∃ x : StepResult, x.Attempted ∧
    (brokenOff x).Storable ∧ ∃ text w, Json.write .indented (brokenOff x).toValue = .ok text ∧
      (load "/run.json").perform Surroundings.silent w = (.ok (brokenOff x), w) := by
  obtain ⟨x, hx, hindex, hattempt, hduration, herror⟩ := Step.exists_attempted_unstarted
  have hitems : ∀ v ∈ [Value.null, .bool true, .int (-3)], Native v := by
    simp [Native.null, Native.bool, Native.int]
  have hempty : Native (.ofFields []) := .fields List.nodup_nil nofun
  have hstorable : (brokenOff x).Storable :=
    { texts := by simp [brokenOff]
      vars := .fields (by simp) (by simp [Native.list hitems, hempty])
      steps := ⟨[x], rfl, List.forall_mem_singleton.mpr hx⟩
      haltedStep := .inl rfl
      error := .inr ⟨_, rfl⟩ }
  have hrestored := hstorable.restored
  have hdigits : 1 ≤ digitLimit := by decide
  have hlimit : 10 ≤ tenTo digitLimit := tenTo_le_tenTo hdigits
  have hvalue : (brokenOff x).toValue.Short ∧ (brokenOff x).toValue.nesting = 5 := by
    have hone : 1 < tenTo digitLimit := by omega
    have hthree : 3 < tenTo digitLimit := by omega
    simp [brokenOff, toValue, unlessNull, StepResult.toValue, StepError.toValue, Step.commandError,
      Value.ofFields, Value.nesting, Value.nestingOfEntries, Value.nestingOfItems, hindex, hattempt,
      hduration, herror, hone, hthree, Nat.zero_lt_of_lt hone]
  obtain ⟨text, htext⟩ := hrestored.written hvalue.1 (by rw [hvalue.2]; decide)
  exact ⟨x, hx, hstorable, text,
    { files := ⟨[(["run.json"], .file (Text.Utf8.encode text.toList))]⟩ }, htext,
    hrestored.loaded htext (by decide) rfl⟩

end StepFlow
