import StepFlow.Proofs.Files.Access
import StepFlow.RunLog.Store
import Mathlib.Data.List.TakeDrop

/-!
# Writing a run log

A run log is written to a temporary file, which then takes the place of the former log. What this
is good for is said by `RunLog.Writing`: wherever the writing may be cut off, the file of the log
holds what it held before, or the whole of the new record. It does not matter how far the writing
comes, whether it fails, and what stood at the two places before.

This rests on one fact about names: the temporary file and the file of the log never have the same
place. The identifier of a run is any text, so that the file may lie in another directory than the
one for logs, but the names of the two files end in different extensions wherever they lie.

## Main definitions

* `RunLog.place`, `RunLog.temporaryPlace` — the places of the file of a log and of its temporary file
* `RunLog.Stored` — the file of a log holds its record, written out in full, which tells what is in
  the log
* `RunLog.Writing` — what the writing of a log guarantees

## Main results

* `RunLog.temporaryPlace_ne_place`
* `RunLog.save_cases` — what is changed by a writing
* `RunLog.save_writing` — a writing keeps the former log until the new one is complete
* `RunLog.start_stored`, `RunLog.start_writing` — a new log is absent until it is stored
-/

namespace StepFlow

namespace RunLog

open Act

variable {l : RunLog} {out : Surroundings} {w w' : World} {t : FileTree}

/-! ### The files of a log -/

/-- The place of the file of a log. -/
def place (l : RunLog) (out : Surroundings) : Place :=
  FileTree.placeOf out.workspace.names l.file.text

/-- The place of the file that a log is written to first. -/
def temporaryPlace (l : RunLog) (out : Surroundings) : Place :=
  FileTree.placeOf out.workspace.names l.temporaryFile.text

theorem stem_append_json (name : List Char) :
    Path.stem (name ++ ".json".toList) = if name.isEmpty then ".json".toList else name := by
  have hreverse : (name ++ ".json".toList).reverse = ['n', 'o', 's', 'j', '.'] ++ name.reverse := by
    simp
  rw [Path.stem, hreverse]
  cases name <;> simp [List.span_eq_takeWhile_dropWhile]

/-- The file of a log and its temporary file differ in the extensions of their names only. -/
theorem exists_files_eq (l : RunLog) :
    ∃ root names stem stem', '/' ∉ stem ∧ '/' ∉ stem' ∧ (∀ c ∈ stem, c ∈ stem') ∧
      l.file = ⟨root, names ++ [String.ofList (stem ++ ".json".toList)]⟩ ∧
      l.temporaryFile = ⟨root, names ++ [String.ofList (stem' ++ ".tmp".toList)]⟩ := by
  obtain ⟨names, stem, hstem, hnames⟩ := Path.exists_names_ofText_append l.runId
  have hlast := hnames ".json" (by decide) (by decide)
  obtain ⟨root, above, hfile⟩ : ∃ root above,
      l.file = ⟨root, above ++ [String.ofList (stem ++ ".json".toList)]⟩ := by
    rw [file, Path.child, Path.join]
    split
    · exact ⟨_, names, by rw [← hlast]⟩
    · exact ⟨_, l.directory.names ++ names, by rw [hlast, List.append_assoc]⟩
  refine ⟨root, above, stem, if stem.isEmpty then ".json".toList else stem, hstem, ?_, ?_, hfile, ?_⟩
  · split
    · decide
    · exact hstem
  · cases stem with
    | nil => nofun
    | cons c stem => exact fun _ => id
  · rw [temporaryFile, hfile, Path.withSuffix, List.reverse_append, List.reverse_singleton,
      List.singleton_append]
    dsimp only
    rw [String.toList_ofList, stem_append_json, List.reverse_cons, List.reverse_reverse,
      String.ofList_append, String.ofList_toList]

/-- The path of the file of a log ends in a name. -/
theorem getLast?_file (l : RunLog) : l.file.text.toList.getLast? = some 'n' := by
  obtain ⟨root, names, stem, -, -, -, -, hfile, -⟩ := l.exists_files_eq
  obtain ⟨a, htext⟩ := Path.exists_text_append root names
  rw [hfile, htext]
  simp

/-- What is in the path of the file of a log is in that of its temporary file, too. -/
theorem mem_temporaryFile {c : Char} (hc : c ∉ ".json".toList) (h : c ∈ l.file.text.toList) :
    c ∈ l.temporaryFile.text.toList := by
  obtain ⟨root, names, stem, stem', -, -, hstem, hfile, htemporary⟩ := l.exists_files_eq
  obtain ⟨a, htext⟩ := Path.exists_text_append root names
  rw [hfile, htext, String.toList_append, String.toList_ofList, List.mem_append,
    List.mem_append] at h
  rw [htemporary, htext, String.toList_append, String.toList_ofList, List.mem_append,
    List.mem_append]
  rcases h with h | h | h
  · exact .inl h
  · exact .inr (.inl (hstem c h))
  · exact absurd h hc

/-- The places of the two files differ in their last names only. -/
theorem exists_places_eq (l : RunLog) (out : Surroundings) :
    ∃ above name name', name ≠ name' ∧ l.place out = above ++ [name] ∧
      l.temporaryPlace out = above ++ [name'] := by
  obtain ⟨root, names, stem, stem', hstem, hstem', -, hfile, htemporary⟩ := l.exists_files_eq
  obtain ⟨a, htext⟩ := Path.exists_text_append root names
  obtain ⟨above, rest, hplace⟩ := FileTree.exists_placeOf_append out.workspace.names a
  have hextended (stem : List Char) (extension : String) (hstem : '/' ∉ stem)
      (hextension : '/' ∉ extension.toList ∧ 2 < extension.length) :
      FileTree.placeOf out.workspace.names (a ++ String.ofList (stem ++ extension.toList)) =
        above ++ [rest ++ String.ofList (stem ++ extension.toList)] := by
    refine hplace _ ?_ ?_
    · rw [String.toList_ofList, List.mem_append, not_or]
      exact ⟨hstem, hextension.1⟩
    · rw [String.length_ofList, List.length_append, String.length_toList]
      omega
  refine ⟨above, rest ++ String.ofList (stem ++ ".json".toList),
    rest ++ String.ofList (stem' ++ ".tmp".toList), fun heq => ?_, ?_, ?_⟩
  · have hlast := congrArg (fun s : String => s.toList.getLast?) heq
    simp at hlast
  · rw [place, hfile, htext]
    exact hextended stem ".json" hstem (by decide)
  · rw [temporaryPlace, htemporary, htext]
    exact hextended stem' ".tmp" hstem' (by decide)

theorem place_ne_nil (l : RunLog) (out : Surroundings) : l.place out ≠ [] := by
  obtain ⟨above, name, name', -, hplace, -⟩ := l.exists_places_eq out
  rw [hplace]
  exact List.append_ne_nil_of_right_ne_nil _ (List.cons_ne_nil _ _)

theorem temporaryPlace_ne_nil (l : RunLog) (out : Surroundings) : l.temporaryPlace out ≠ [] := by
  obtain ⟨above, name, name', -, -, hplace⟩ := l.exists_places_eq out
  rw [hplace]
  exact List.append_ne_nil_of_right_ne_nil _ (List.cons_ne_nil _ _)

/-- The temporary file is never the file of the log. -/
theorem temporaryPlace_ne_place (l : RunLog) (out : Surroundings) :
    l.temporaryPlace out ≠ l.place out := by
  obtain ⟨above, name, name', hne, hplace, htemporary⟩ := l.exists_places_eq out
  rw [hplace, htemporary]
  intro heq
  exact hne (List.singleton_inj.mp (List.append_cancel_left heq)).symm

/-! ### One writing -/

/-- The file of a log holds its record, written out in full, and the record tells what is in the
log. -/
structure Stored (l : RunLog) (out : Surroundings) (t : FileTree) : Prop where
  whole : ∃ text, Json.write .indented l.record.toValue = .ok text ∧
    t.get? (l.place out) = some (.file (Text.Utf8.encode text.toList))
  tells : l.record.Tells l.status l.results l.haltedStep l.error

theorem perform_update (f : RunLog → RunLog) (out : Surroundings) (w : World) :
    (update f).perform out w = (.ok (), { w with runLog := w.runLog.map f }) := rfl

/-- A change that only fills the temporary file of a log. -/
def Drafts (l : RunLog) (out : Surroundings) (c : Change) : Prop :=
  ∃ bytes, c = .write (l.temporaryPlace out) bytes

/-- What is changed by a writing: one that fails has filled the temporary file at most, and one that
succeeds has filled it with the record and moved it. -/
theorem save_cases (hlog : w.runLog = some l) (out : Surroundings) :
    let l' := { l with updatedAt := out.clock w.readings }
    let w₁ := { w.ticked with runLog := some l' }
    (∃ e cs, save.perform out w = (.error e, w₁.changedBy cs) ∧ ∀ c ∈ cs, l.Drafts out c) ∨
      ∃ text cs, Json.write .indented l'.record.toValue = .ok text ∧
        save.perform out w =
          (.ok (), w₁.changedBy (cs ++ [.rename (l.temporaryPlace out) (l.place out)])) ∧
        (∀ c ∈ cs, l.Drafts out c) ∧
        (w.files.applyAll cs).get? (l.temporaryPlace out) =
          some (.file (Text.Utf8.encode text.toList)) := by
  intro l' w₁
  have hsave : save.perform out w = (do
      let place ← openForWriting l'.temporaryFile.text
      let text ← Act.ofExcept (Json.write .indented l'.record.toValue)
      change (.write place (Text.Utf8.encode text.toList))
      renameFile l'.temporaryFile.text l'.file.text : Act Unit).perform out w₁ := by
    rw [save, perform_bind_of_ok (perform_now _ _), perform_bind_of_ok (perform_update _ _ _),
      perform_bind_of_ok (perform_get _ _)]
    simp only [World.ticked, hlog, Option.map_some]
    rfl
  have hdrafts (bytes : List UInt8) : l.Drafts out (.write (l.temporaryPlace out) bytes) := ⟨_, rfl⟩
  rw [hsave]
  rcases openForWriting_cases l'.temporaryFile.text out w₁ with ⟨e, hopen⟩ | hopen
  · rw [perform_bind_of_error hopen]
    exact .inl ⟨e, [], by rw [World.changedBy_nil], fun c hc => absurd hc List.not_mem_nil⟩
  · rw [perform_bind_of_ok hopen, perform_bind, perform_ofExcept]
    cases htext : Json.write .indented l'.record.toValue with
    | error e => exact .inl ⟨e, _, rfl, List.forall_mem_singleton.mpr (hdrafts [])⟩
    | ok text =>
      have hfilled := List.forall_mem_cons.mpr ⟨hdrafts [],
        List.forall_mem_singleton.mpr (hdrafts (Text.Utf8.encode text.toList))⟩
      dsimp only
      rw [perform_bind_of_ok (perform_change_eq _ _ _), World.changedBy_changedBy]
      rcases renameFile_cases l'.temporaryFile.text l'.file.text out _ with ⟨e, hmove⟩ | hmove
      · rw [hmove]
        exact .inl ⟨e, _, rfl, hfilled⟩
      · rw [hmove, World.changedBy_changedBy]
        refine .inr ⟨text, _, rfl, rfl, hfilled, ?_⟩
        exact FileTree.get?_put_self _ (l.temporaryPlace_ne_nil out) _

/-- What the writing of a log guarantees, from the world in which it begins to its outcome and the
world in which it ends. -/
structure Writing (l : RunLog) (out : Surroundings) (w : World) (outcome : Except Fault Unit)
    (w' : World) : Prop where
  onward : w.Extends w'
  /-- The log that has been written, or should have been, is the one that is kept. -/
  kept : w'.runLog = some l
  /-- Wherever the writing is cut off, the file holds what it held before, unless the writing has
  succeeded. -/
  whole : ∀ cs, cs <+: w.since w' →
    (w.files.applyAll cs).get? (l.place out) = w.files.get? (l.place out) ∨
      outcome = .ok () ∧ l.Stored out (w.files.applyAll cs)
  stored : outcome = .ok () → l.Stored out w'.files

/-- Filling the temporary file leaves the file of the log alone. -/
theorem get?_applyAll_of_drafts {cs : List Change} (hcs : ∀ c ∈ cs, l.Drafts out c) :
    (t.applyAll cs).get? (l.place out) = t.get? (l.place out) := by
  refine FileTree.get?_applyAll_of_not_touches fun c hc htouches => ?_
  obtain ⟨bytes, rfl⟩ := hcs c hc
  exact l.temporaryPlace_ne_place out htouches

/-- **A writing keeps the former log until the new one is complete.** -/
theorem save_writing {outcome : Except Fault Unit} (hlog : w.runLog = some l)
    (h : save.perform out w = (outcome, w')) :
    Writing { l with updatedAt := out.clock w.readings } out w outcome w' := by
  rcases save_cases hlog out with ⟨e, cs, hsave, hcs⟩ | ⟨text, cs, htext, hsave, hcs, hfilled⟩
  · cases hsave.symm.trans h
    refine ⟨World.extends_of_changes rfl rfl, rfl, fun ds hds => .inl ?_, nofun⟩
    rw [@World.since_eq w _ cs rfl] at hds
    exact get?_applyAll_of_drafts fun c hc => hcs c (hds.subset hc)
  · cases hsave.symm.trans h
    have hstored : Stored { l with updatedAt := out.clock w.readings } out
        (w.files.applyAll (cs ++ [.rename (l.temporaryPlace out) (l.place out)])) := by
      have hmoved := FileTree.get?_apply_rename hfilled (l.place_ne_nil out)
      rw [← FileTree.applyAll_nil (FileTree.apply _ _), ← FileTree.applyAll_cons,
        ← FileTree.applyAll_append] at hmoved
      exact ⟨⟨text, htext, hmoved⟩, record_tells _⟩
    refine ⟨World.extends_of_changes rfl rfl, rfl, fun ds hds => ?_, fun _ => hstored⟩
    rw [@World.since_eq w _ _ rfl] at hds
    -- less than all of the changes is about the temporary file only
    rcases List.prefix_concat_iff.mp hds with rfl | hds
    · exact .inr ⟨rfl, hstored⟩
    · exact .inl (get?_applyAll_of_drafts fun c hc => hcs c (hds.subset hc))

/-- The log that is kept is changed, and then written. -/
theorem update_save_writing {outcome : Except Fault Unit} (hlog : w.runLog = some l)
    (f : RunLog → RunLog) (h : (do update f; save).perform out w = (outcome, w')) :
    Writing { f l with updatedAt := out.clock w.readings } out w outcome w' := by
  rw [perform_bind_of_ok (perform_update f out w), hlog] at h
  obtain ⟨honward, hkept, hwhole, hstored⟩ := save_writing rfl h
  exact ⟨⟨honward.changes_eq, honward.files_eq⟩, hkept, hwhole, hstored⟩

/-! ### A new log -/

/-- A log that has been started is kept, and its file holds it. -/
theorem start_stored (hlog : w.runLog = some l) {path : Path}
    (h : (start l).perform out w = (.ok path, w')) :
    ∃ time, w'.runLog = some { l with updatedAt := time } ∧
      Stored { l with updatedAt := time } out w'.files := by
  obtain ⟨_, w₁, hmake, hrest⟩ := perform_bind_ok_iff.mp h
  obtain ⟨_, w₂, hsave, hdone⟩ := perform_bind_ok_iff.mp hrest
  obtain ⟨cs, rfl, -⟩ := (ensureDirectory_respects l.directory).of_perform hmake
  have hwriting := save_writing (w := w.changedBy cs) hlog hsave
  cases hdone
  exact ⟨_, hwriting.kept, hwriting.stored rfl⟩

/-- **A new log is absent until it is stored.** -/
theorem start_writing {outcome : Except Fault Path} (hlog : w.runLog = some l)
    (hnew : ¬w.files.HasFile (l.place out)) (h : (start l).perform out w = (outcome, w')) :
    w.Extends w' ∧
      (∀ cs, cs <+: w.since w' → ¬(w.files.applyAll cs).HasFile (l.place out) ∨
        ∃ time, Stored { l with updatedAt := time } out (w.files.applyAll cs)) ∧
      ∀ path, outcome = .ok path → ∃ time, w'.runLog = some { l with updatedAt := time } ∧
        Stored { l with updatedAt := time } out w'.files := by
  have hstored {path : Path} (hpath : outcome = .ok path) :=
    start_stored hlog (h.trans (by rw [hpath]))
  rcases hmake : (ensureDirectory l.directory).perform out w with ⟨made, w₁⟩
  obtain ⟨cs, rfl, hcs⟩ := (ensureDirectory_respects l.directory).of_perform hmake
  have habsent {ds : List Change} (hds : ds <+: cs) :
      ¬(w.files.applyAll ds).HasFile (l.place out) :=
    fun hfile => hnew (FileTree.hasFile_of_applyAll (fun c hc => hcs c (hds.subset hc)) hfile)
  cases made with
  | error e =>
    cases (perform_bind_of_error hmake _).symm.trans h
    refine ⟨w.extends_changedBy cs, fun ds hds => .inl (habsent ?_), fun path => hstored⟩
    rwa [World.since_changedBy] at hds
  | ok _ =>
    rcases hsave : save.perform out (w.changedBy cs) with ⟨saved, w₂⟩
    obtain ⟨honward, -, hwhole, -⟩ := save_writing (w := w.changedBy cs) hlog hsave
    have hstart : (start l).perform out w = (saved.map fun _ => l.file, w₂) := by
      rw [start, perform_bind_of_ok hmake, perform_bind, hsave]
      cases saved <;> rfl
    cases hstart.symm.trans h
    refine ⟨trans_of World.Extends (w.extends_changedBy cs) honward, fun ds hds => ?_,
      fun path => hstored⟩
    rcases (w.extends_changedBy cs).split honward hds with hds | ⟨es, hes, rfl⟩
    · rw [World.since_changedBy] at hds
      exact .inl (habsent hds)
    · rw [World.since_changedBy, FileTree.applyAll_append]
      rcases hwhole es hes with hsame | ⟨-, hstored⟩
      · refine .inl fun ⟨bytes, hfile⟩ => habsent (List.prefix_refl cs) ⟨bytes, ?_⟩
        exact hsame.symm.trans hfile
      · exact .inr ⟨_, hstored⟩

end RunLog

end StepFlow
