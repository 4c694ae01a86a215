import StepFlow.Proofs.Files.Access
import StepFlow.Proofs.Files.Spelling

/-!
# Trees that grow

A tree grows when things are added to it and nothing else happens: whatever stood in it stands there
still. So all that could be found by a path is found by it, and what has been made once does not
have to be made again. Where a thing may be added is a matter of the place and the thing.

Two kinds of activities make trees grow: making directories as far as they are missing, and writing
a file by a path that leads to nothing. Neither needs the path to be a good one. If it is refused,
nothing is added.

## Main definitions

* `FileTree.Grows` — things have been added, each where it may be
* `Act.Adds` — whatever becomes of an activity, it adds to the files at most

## Main results

* `FileTree.Grows.stat` — what is found by a path is found there still
* `Act.Adds.bind` — activities that add, one after the other
* `Act.adds_ensureDirectories`, `Act.adds_writeText` — what adds
* `Act.ensureDirectories_again` — directories are made once
-/

namespace StepFlow

namespace FileTree

variable {t t' t'' : FileTree} {new : Place → Entry → Prop} {here p : Place} {path : String}
  {e : Entry}

/-! ### What is added -/

/-- From `t` to `t'` things have been added, each where it may be. All that stood in `t` stands in
`t'` as it was. -/
def Grows (new : Place → Entry → Prop) (t t' : FileTree) : Prop :=
  ∀ place, t'.get? place = t.get? place ∨
    t.get? place = none ∧ ∃ e, t'.get? place = some e ∧ new place e

@[refl] theorem Grows.refl (t : FileTree) : t.Grows new t := fun _ => .inl rfl

@[trans] theorem Grows.trans (h : t.Grows new t') (h' : t'.Grows new t'') : t.Grows new t'' := by
  intro place
  rcases h' place with hsame' | ⟨hnone', hadded'⟩
  · rw [hsame']
    exact h place
  · rcases h place with hsame | ⟨-, e, he, -⟩
    · exact .inr ⟨hsame.symm.trans hnone', hadded'⟩
    · cases hnone'.symm.trans he

theorem Grows.get? (h : t.Grows new t') (he : t.get? p = some e) : t'.get? p = some e := by
  rcases h p with hsame | ⟨hnone, -⟩
  · rw [hsame, he]
  · cases hnone.symm.trans he

theorem Grows.keepsDirectories (h : t.Grows new t') : t.KeepsDirectories t' := fun _ => h.get?

theorem grows_put (h : t.get? p = none) (he : new p e) : t.Grows new (t.put p e) := by
  have hroot : p ≠ [] := by
    rintro rfl
    cases h
  intro q
  by_cases hq : p = q
  · subst hq
    exact .inr ⟨h, e, get?_put_self t hroot e, he⟩
  · exact .inl (get?_put_of_ne t hq e)

/-- What has been put first does not matter. -/
theorem grows_put_put (h : t.get? p = none) (e' : Entry) (he : new p e) :
    t.Grows new ((t.put p e').put p e) := by
  have hroot : p ≠ [] := by
    rintro rfl
    cases h
  intro q
  by_cases hq : p = q
  · subst hq
    exact .inr ⟨h, e, get?_put_self _ hroot e, he⟩
  · exact .inl ((get?_put_of_ne _ hq e).trans (get?_put_of_ne t hq e'))

/-! ### What paths lead to -/

/-- **What is found by a path is found there still.** -/
theorem Grows.stat (h : t.Grows new t') (he : t.stat here path = .ok e) :
    t'.stat here path = .ok e := by
  obtain ⟨p, hp, hget, hslash⟩ := stat_eq_ok_iff.mp he
  exact stat_eq_ok_iff.mpr ⟨p, h.keepsDirectories.locate hp, h.get? hget, hslash⟩

/-- Where nothing is found, nothing stands at the place that may be written. -/
theorem get?_of_writable (h : t.writable here path = .ok p)
    (hpath : path.toList.getLast? ≠ some '/') (hnone : t.look? here path = .ok none) :
    t.get? p = none := by
  obtain ⟨hlocate, -⟩ := locate_of_writable h
  by_contra hsome
  obtain ⟨e, he⟩ := Option.ne_none_iff_exists'.mp hsome
  have hfound := look?_eq_ok_some_iff.mpr (stat_eq_ok_iff.mpr ⟨p, hlocate, he, .inr hpath⟩)
  cases hnone.symm.trans hfound

/-- A directory may be made where a path leads and nothing stands. -/
theorem makable_eq_ok (h : t.makable here path = .ok p) (hpath : path.toList.getLast? ≠ some '/') :
    t.locate here path = .ok p ∧ t.get? p = none := by
  have hname : (path.toList.reverse.dropWhile (· = '/')).reverse = path.toList := by
    rw [List.reverse_eq_iff]
    cases hchars : path.toList.reverse with
    | nil => rfl
    | cons c cs =>
      refine List.dropWhile_cons_of_neg fun hc => hpath ?_
      rw [List.getLast?_eq_head?_reverse, hchars, List.head?_cons, of_decide_eq_true hc]
  unfold makable at h
  rw [hname] at h
  dsimp only at h
  rw [String.ofList_toList, ite_self] at h
  cases hplace : t.locate here path with
  | error cause =>
    rw [hplace] at h
    cases h
  | ok q =>
    rw [hplace] at h
    dsimp only [bind, Except.bind] at h
    split at h
    · cases h
    · split at h
      · cases h
        exact ⟨rfl, ‹_›⟩
      · cases h
      · cases h

end FileTree

namespace Act

variable {α β : Type} {new : Place → Entry → Prop} {path text : String} {out : Surroundings}
  {w w' w'' : World}

/-! ### Activities that add -/

/-- Whatever becomes of an activity, it adds to the files at most. -/
def Adds (new : Place → Entry → Prop) (a : Act α) (out : Surroundings) (w : World) : Prop :=
  w.files.Grows new (a.perform out w).2.files

theorem Adds.of_perform {a : Act α} (h : Adds new a out w) {r : Except Fault α}
    (hp : a.perform out w = (r, w')) : w.files.Grows new w'.files := by
  rwa [Adds, hp] at h

theorem adds_of_files_eq {a : Act α} (h : (a.perform out w).2.files = w.files) :
    Adds new a out w := by
  rw [Adds, h]

theorem adds_of_reads {a : Act α} (h : Respects Eq a) : Adds new a out w :=
  adds_of_files_eq (congrArg World.files (h out w).symm)

theorem Adds.bind {a : Act α} {f : α → Act β} (ha : Adds new a out w)
    (hf : ∀ v w', a.perform out w = (.ok v, w') → Adds new (f v) out w') :
    Adds new (a >>= f) out w := by
  rw [Adds, perform_bind]
  rcases h : a.perform out w with ⟨_ | v, w'⟩
  · exact ha.of_perform h
  · exact (ha.of_perform h).trans (hf v w' h)

/-! ### Looking -/

theorem exists?_eq_true_iff : (exists? path).perform out w = (.ok true, w) ↔
    '\x00' ∉ path.toList ∧ ∃ e, w.files.stat out.workspace.names path = .ok e := by
  rw [perform_exists?]
  by_cases hnul : '\x00' ∈ path.toList
  · rw [if_pos hnul]
    exact iff_of_false (by simp) fun h => h.1 hnul
  · rw [if_neg hnul]
    simp only [← FileTree.look?_eq_ok_some_iff]
    cases hlook : w.files.look? out.workspace.names path with
    | error cause => exact iff_of_false nofun (by simp)
    | ok found => cases found <;> simp [mapError_ok, Except.map, hnul]

theorem isDirectory_eq_true_iff : (isDirectory path).perform out w = (.ok true, w) ↔
    '\x00' ∉ path.toList ∧ w.files.stat out.workspace.names path = .ok .directory := by
  rw [perform_isDirectory]
  by_cases hnul : '\x00' ∈ path.toList
  · rw [if_pos hnul]
    exact iff_of_false (by simp) fun h => h.1 hnul
  · rw [if_neg hnul, ← FileTree.look?_eq_ok_some_iff]
    cases hlook : w.files.look? out.workspace.names path with
    | error cause => exact iff_of_false nofun (by simp)
    | ok found => simp [mapError_ok, Except.map, hnul]

theorem exists?_of_grows (h : (exists? path).perform out w = (.ok true, w))
    (hgrows : w.files.Grows new w'.files) : (exists? path).perform out w' = (.ok true, w') := by
  obtain ⟨hnul, e, he⟩ := exists?_eq_true_iff.mp h
  exact exists?_eq_true_iff.mpr ⟨hnul, e, hgrows.stat he⟩

/-- What is found depends on the files only. -/
theorem exists?_of_files (h : (exists? path).perform out w = (.ok true, w))
    (hfiles : w'.files = w.files) : (exists? path).perform out w' = (.ok true, w') := by
  rw [exists?_eq_true_iff] at h ⊢
  rwa [hfiles]

theorem isDirectory_of_grows (h : (isDirectory path).perform out w = (.ok true, w))
    (hgrows : w.files.Grows new w'.files) : (isDirectory path).perform out w' = (.ok true, w') := by
  obtain ⟨hnul, he⟩ := isDirectory_eq_true_iff.mp h
  exact isDirectory_eq_true_iff.mpr ⟨hnul, hgrows.stat he⟩

/-! ### Directories -/

theorem perform_makeOneDirectory (path : String) (out : Surroundings) (w : World) :
    (makeOneDirectory path).perform out w =
      if '\x00' ∈ path.toList then (.error .nulInPath, w)
      else match w.files.makable out.workspace.names path with
        | .error cause => (.error (.file cause path), w)
        | .ok place => (.ok (), w.changedBy [.makeDirectory place]) := by
  simp only [makeOneDirectory, perform_bind, perform_requireNulFree, perform_get, perform_here,
    perform_refused]
  by_cases hnul : '\x00' ∈ path.toList
  · simp only [if_pos hnul]
  · simp only [if_neg hnul]
    cases w.files.makable out.workspace.names path <;> rfl

/-- A directory is made where nothing stood, or nothing is changed. -/
theorem makeOneDirectory_cases (hpath : path.toList.getLast? ≠ some '/') (out : Surroundings)
    (w : World) :
    (∃ e, (makeOneDirectory path).perform out w = (.error e, w)) ∨
      ∃ p, '\x00' ∉ path.toList ∧ w.files.locate out.workspace.names path = .ok p ∧
        w.files.get? p = none ∧
        (makeOneDirectory path).perform out w = (.ok (), w.changedBy [.makeDirectory p]) := by
  rw [perform_makeOneDirectory]
  by_cases hnul : '\x00' ∈ path.toList
  · exact .inl ⟨_, if_pos hnul⟩
  · rw [if_neg hnul]
    cases hplace : w.files.makable out.workspace.names path with
    | error cause => exact .inl ⟨_, rfl⟩
    | ok p =>
      obtain ⟨hlocate, hnone⟩ := FileTree.makable_eq_ok hplace hpath
      exact .inr ⟨p, hnul, hlocate, hnone, rfl⟩

theorem adds_makeOneDirectory (hpath : path.toList.getLast? ≠ some '/')
    (hnew : new (FileTree.placeOf out.workspace.names path) .directory) :
    Adds new (makeOneDirectory path) out w := by
  rcases makeOneDirectory_cases hpath out w with ⟨e, h⟩ | ⟨p, -, hp, hnone, h⟩
  · exact adds_of_files_eq (by rw [h])
  · rw [← FileTree.locate_eq_ok hp] at hnew
    rw [Adds, h]
    exact FileTree.grows_put hnone hnew

theorem adds_ensureOneDirectory (hpath : path.toList.getLast? ≠ some '/')
    (hnew : new (FileTree.placeOf out.workspace.names path) .directory) :
    Adds new (ensureOneDirectory path) out w := by
  have hmake : Adds new (attempt (makeOneDirectory path)) out w := adds_makeOneDirectory hpath hnew
  refine hmake.bind fun made w' _ => ?_
  cases made with
  | ok _ => exact .refl _
  | error e =>
    exact adds_of_reads
      (.bind (isDirectory_respects path) fun _ => .ite (fun _ => .pure _) fun _ => .throw _)

/-- What has been made sure of is a directory. -/
theorem isDirectory_of_ensureOneDirectory (hpath : path.toList.getLast? ≠ some '/')
    (h : (ensureOneDirectory path).perform out w = (.ok (), w')) :
    (isDirectory path).perform out w' = (.ok true, w') := by
  rw [ensureOneDirectory, perform_bind, perform_attempt] at h
  rcases makeOneDirectory_cases hpath out w with ⟨e, hmake⟩ | ⟨p, hnul, hp, hnone, hmake⟩
  · rw [hmake] at h
    obtain ⟨found, w₁, hfound, h⟩ := perform_bind_ok_iff.mp h
    obtain rfl : w = w₁ := (isDirectory_respects path).of_perform hfound
    cases found with
    | true =>
      cases h
      exact hfound
    | false => cases h
  · rw [hmake] at h
    cases h
    have hgrows : w.files.Grows (fun _ _ => True) (w.files.put p .directory) :=
      FileTree.grows_put hnone trivial
    have hroot : p ≠ [] := by
      rintro rfl
      cases hnone
    exact isDirectory_eq_true_iff.mpr ⟨hnul, FileTree.stat_eq_ok_iff.mpr
      ⟨p, hgrows.keepsDirectories.locate hp, FileTree.get?_put_self _ hroot _, .inl rfl⟩⟩

/-- Nothing needs to be done where a directory is. -/
theorem ensureOneDirectory_of_isDirectory (hpath : path.toList.getLast? ≠ some '/')
    (h : (isDirectory path).perform out w = (.ok true, w)) :
    (ensureOneDirectory path).perform out w = (.ok (), w) := by
  rw [ensureOneDirectory, perform_bind, perform_attempt]
  rcases makeOneDirectory_cases hpath out w with ⟨e, hmake⟩ | ⟨p, -, hp, hnone, -⟩
  · rw [hmake]
    exact perform_bind_of_ok h _
  · obtain ⟨q, hq, hdirectory, -⟩ := FileTree.stat_eq_ok_iff.mp (isDirectory_eq_true_iff.mp h).2
    cases hp.symm.trans hq
    cases hnone.symm.trans hdirectory

theorem adds_ensureDirectories {root : String} {names : List String}
    (hnames : ∀ n ∈ names, Path.IsPart n)
    (hnew : ∀ above, above ≠ [] → above <+: names.reverse →
      new (FileTree.placeOf out.workspace.names (Path.mk root above).text) .directory) :
    Adds new (ensureDirectories root names) out w := by
  induction names generalizing w with
  | nil => exact .refl _
  | cons name parents ih =>
    obtain ⟨hname, hparents⟩ := List.forall_mem_cons.mp hnames
    rw [List.reverse_cons] at hnew
    have hlast := Path.getLast?_text_append root parents.reverse hname
    have hhere := hnew _ (by simp) (List.prefix_refl _)
    have hone (w : World) := adds_ensureOneDirectory (w := w) hlast hhere
    have habove (w : World) := ih (w := w) hparents fun above hne hway =>
      hnew above hne (hway.trans (List.prefix_append _ _))
    rw [ensureDirectories, List.reverse_cons]
    refine Adds.bind (hone w) fun made w' _ => ?_
    split
    · exact .refl _
    · exact (habove w').bind fun _ w'' _ => hone w''
    · exact .refl _

/-- Making sure of a directory once more does nothing, also after more has been added. -/
theorem ensureOneDirectory_again (hpath : path.toList.getLast? ≠ some '/')
    (h : (ensureOneDirectory path).perform out w = (.ok (), w'))
    (hgrows : w'.files.Grows new w''.files) :
    (ensureOneDirectory path).perform out w'' = (.ok (), w'') :=
  ensureOneDirectory_of_isDirectory hpath
    (isDirectory_of_grows (isDirectory_of_ensureOneDirectory hpath h) hgrows)

theorem ensureDirectories_again {root : String} {names : List String}
    (hnames : ∀ n ∈ names, Path.IsPart n)
    (h : (ensureDirectories root names).perform out w = (.ok (), w'))
    (hgrows : w'.files.Grows new w''.files) :
    (ensureDirectories root names).perform out w'' = (.ok (), w'') := by
  cases names with
  | nil => rfl
  | cons name parents =>
    have hlast := Path.getLast?_text_append root parents.reverse (hnames name List.mem_cons_self)
    rw [ensureDirectories, List.reverse_cons] at h ⊢
    obtain ⟨made, w₁, hmade, h⟩ := perform_bind_ok_iff.mp h
    rw [perform_attempt_ok_iff] at hmade
    have hagain : (ensureOneDirectory (Path.mk root (parents.reverse ++ [name])).text).perform out
        w'' = (.ok (), w'') := by
      split at h
      · cases h
        exact ensureOneDirectory_again hlast hmade hgrows
      · obtain ⟨-, w₂, -, h⟩ := perform_bind_ok_iff.mp h
        exact ensureOneDirectory_again hlast h hgrows
      · cases h
    rw [perform_bind_of_ok (perform_attempt_ok_iff.mpr hagain)]
    rfl

/-! ### Files -/

/-- A file is opened where nothing stood, or nothing is changed. -/
theorem openForWriting_of_none (hpath : path.toList.getLast? ≠ some '/')
    (hnone : (exists? path).perform out w = (.ok false, w)) :
    (∃ e, (openForWriting path).perform out w = (.error e, w)) ∨
      ∃ p, p = FileTree.placeOf out.workspace.names path ∧ w.files.get? p = none ∧
        (openForWriting path).perform out w = (.ok p, w.changedBy [.write p []]) := by
  rw [perform_openForWriting]
  by_cases hnul : '\x00' ∈ path.toList
  · exact .inl ⟨_, if_pos hnul⟩
  · rw [if_neg hnul]
    cases hplace : w.files.writable out.workspace.names path with
    | error cause => exact .inl ⟨_, rfl⟩
    | ok p =>
      refine .inr ⟨p, FileTree.writable_eq_ok hplace, FileTree.get?_of_writable hplace hpath ?_, rfl⟩
      rw [perform_exists?, if_neg hnul] at hnone
      cases hlook : w.files.look? out.workspace.names path with
      | error cause =>
        rw [hlook] at hnone
        cases hnone
      | ok found =>
        rw [hlook] at hnone
        cases found with
        | none => rfl
        | some e => cases hnone

theorem adds_writeText (hpath : path.toList.getLast? ≠ some '/')
    (hnone : (exists? path).perform out w = (.ok false, w))
    (hnew : new (FileTree.placeOf out.workspace.names path)
      (.file (Text.Utf8.encode text.toList))) :
    Adds new (writeText path text) out w := by
  rcases openForWriting_of_none hpath hnone with ⟨e, h⟩ | ⟨p, hp, hget, h⟩
  · exact adds_of_files_eq (by rw [writeText, perform_bind_of_error h])
  · rw [← hp] at hnew
    rw [Adds, writeText, perform_bind_of_ok h]
    exact FileTree.grows_put_put hget _ hnew

/-- What has been written is found. -/
theorem exists?_of_writeText (hpath : path.toList.getLast? ≠ some '/')
    (h : (writeText path text).perform out w = (.ok (), w')) :
    (exists? path).perform out w' = (.ok true, w') := by
  obtain ⟨p, w₁, hopen, h⟩ := perform_bind_ok_iff.mp h
  obtain ⟨hnul, hwritable, rfl⟩ := openForWriting_ok hopen
  rw [perform_change_eq] at h
  cases h
  exact exists?_eq_true_iff.mpr ⟨hnul, _, FileTree.read_eq_ok_iff.mp
    (FileTree.read_put_of_writable hwritable hpath _ _)⟩

end Act

end StepFlow
