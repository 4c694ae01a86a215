import StepFlow.Proofs.Activity
import StepFlow.Proofs.Files.Tree

/-!
# Access to files

What becomes of reading a file, of writing one and of moving one to another place. A path may be
refused, since it holds a NUL character or leads to nothing of the right kind, and nothing is
changed then.

A world keeps every change of its files, so that two worlds, one of which has come from the other,
tell all the trees that the files went through in between: these are the trees after the first
changes made since. A crash may leave any of them.

## Main definitions

* `World.changedBy` — a world after changes of its files
* `World.since` — the changes that have been made from one world to another
* `World.Extends` — from one world to another files have been altered by these changes only
* `World.MakesDirectories` — from one world to another directories have been made

## Main results

* `Act.readText_cases` — the text of a file
* `Act.openForWriting_cases`, `Act.renameFile_cases` — one change at the place of the path, or none
* `Act.readText_respects` — reading does nothing to the world
* `Act.ensureDirectory_respects` — making sure of a directory makes directories at most
* `World.Extends.split` — the first changes on the whole way are made on its first part or go beyond
-/

namespace StepFlow

/-! ### The files between two worlds -/

namespace World

/-- The world after a sequence of changes of its files. -/
def changedBy (w : World) (cs : List Change) : World :=
  { w with files := w.files.applyAll cs, changes := w.changes ++ cs }

/-- The changes that have been made from `w` to `w'`. -/
def since (w w' : World) : List Change := w'.changes.drop w.changes.length

/-- From `w` to `w'` files have been altered by the changes that have been kept since, and by
nothing else. -/
structure Extends (w w' : World) : Prop where
  changes_eq : w'.changes = w.changes ++ w.since w'
  files_eq : w'.files = w.files.applyAll (w.since w')

variable {w w₁ w₂ : World}

@[simp] theorem changedBy_nil (w : World) : w.changedBy [] = w := by
  simp [changedBy]

theorem changedBy_changedBy (w : World) (cs ds : List Change) :
    (w.changedBy cs).changedBy ds = w.changedBy (cs ++ ds) := by
  simp [changedBy, FileTree.applyAll_append]

theorem since_eq {cs : List Change} (h : w₁.changes = w.changes ++ cs) : w.since w₁ = cs := by
  rw [since, h, List.drop_left]

theorem extends_of_changes {cs : List Change} (hchanges : w₁.changes = w.changes ++ cs)
    (hfiles : w₁.files = w.files.applyAll cs) : w.Extends w₁ :=
  ⟨by rw [since_eq hchanges, hchanges], by rw [since_eq hchanges, hfiles]⟩

@[simp] theorem since_changedBy (w : World) (cs : List Change) : w.since (w.changedBy cs) = cs :=
  since_eq rfl

theorem extends_changedBy (w : World) (cs : List Change) : w.Extends (w.changedBy cs) :=
  extends_of_changes rfl rfl

theorem Extends.since_append (h : w.Extends w₁) (h₁ : w₁.Extends w₂) :
    w.since w₂ = w.since w₁ ++ w₁.since w₂ :=
  since_eq (by rw [← List.append_assoc, ← h.changes_eq, ← h₁.changes_eq])

instance : IsPreorder World Extends where
  refl _ := extends_of_changes (List.append_nil _).symm rfl
  trans w w₁ w₂ h h' := by
    have hchanges : w₂.changes = w.changes ++ (w.since w₁ ++ w₁.since w₂) := by
      rw [← List.append_assoc, ← h.changes_eq, ← h'.changes_eq]
    refine extends_of_changes hchanges ?_
    rw [FileTree.applyAll_append, ← h.files_eq, ← h'.files_eq]

/-- The first changes on the whole way are made on its first part, or they go beyond it. -/
theorem Extends.split (h : w.Extends w₁) (h₁ : w₁.Extends w₂) {cs : List Change}
    (hcs : cs <+: w.since w₂) :
    cs <+: w.since w₁ ∨ ∃ ds, ds <+: w₁.since w₂ ∧ cs = w.since w₁ ++ ds := by
  rw [h.since_append h₁] at hcs
  rcases List.prefix_or_prefix_of_prefix hcs (List.prefix_append _ _) with hcs' | ⟨ds, rfl⟩
  · exact .inl hcs'
  · exact .inr ⟨ds, (List.prefix_append_right_inj _).mp hcs, rfl⟩

/-- From `w` to `w'` directories have been made, and nothing else has happened. -/
def MakesDirectories (w w' : World) : Prop :=
  ∃ cs, w' = w.changedBy cs ∧ ∀ c ∈ cs, ∃ p, c = .makeDirectory p

instance : IsPreorder World MakesDirectories where
  refl w := ⟨[], w.changedBy_nil.symm, nofun⟩
  trans w _ _ h h' := by
    obtain ⟨cs, rfl, hcs⟩ := h
    obtain ⟨ds, rfl, hds⟩ := h'
    exact ⟨cs ++ ds, w.changedBy_changedBy cs ds, List.forall_mem_append.mpr ⟨hcs, hds⟩⟩

end World

namespace Act

variable {path : String} {out : Surroundings} {w : World}

@[simp] theorem perform_here (out : Surroundings) (w : World) :
    here.perform out w = (.ok out.workspace.names, w) := rfl

@[simp] theorem perform_refused {α : Type} (path : String) (r : Except FileCause α)
    (out : Surroundings) (w : World) :
    (refused path r).perform out w = (r.mapError (.file · path), w) := by
  cases r <;> rfl

/-! ### Reading -/

theorem perform_requireNulFree (path : String) (out : Surroundings) (w : World) :
    (requireNulFree path).perform out w =
      (if '\x00' ∈ path.toList then .error .nulInPath else .ok (), w) := by
  unfold requireNulFree
  by_cases h : '\x00' ∈ path.toList
  · rw [if_pos h, if_pos (List.elem_eq_true_of_mem h)]
    rfl
  · rw [if_neg h, if_neg (by simpa using h)]
    rfl

/-- The bytes of a file, or why there are none. -/
theorem perform_readBytes (path : String) (out : Surroundings) (w : World) :
    (readBytes path).perform out w =
      (if '\x00' ∈ path.toList then .error .nulInPath
        else (w.files.read out.workspace.names path).mapError (.file · path), w) := by
  rw [readBytes, perform_bind, perform_requireNulFree]
  by_cases hnul : '\x00' ∈ path.toList
  · rw [if_pos hnul, if_pos hnul]
  · rw [if_neg hnul, if_neg hnul]
    simp only [perform_bind, perform_get, perform_here, perform_refused]

/-- Reading a text fails where the path or the file is at fault, or the bytes are no text. -/
theorem readText_cases (path : String) (out : Surroundings) (w : World) :
    ('\x00' ∈ path.toList ∧ (readText path).perform out w = (.error .nulInPath, w)) ∨
    ('\x00' ∉ path.toList ∧
      ((∃ cause, w.files.read out.workspace.names path = .error cause ∧
          (readText path).perform out w = (.error (.file cause path), w)) ∨
        ∃ bytes, w.files.read out.workspace.names path = .ok bytes ∧
          ((Text.Utf8.decode? bytes = none ∧
              (readText path).perform out w = (.error .undecodable, w)) ∨
            ∃ cs, Text.Utf8.decode? bytes = some cs ∧
              (readText path).perform out w = (.ok (Text.normalizeNewlines cs), w)))) := by
  rw [readText, perform_bind, perform_readBytes]
  by_cases hnul : '\x00' ∈ path.toList
  · rw [if_pos hnul]
    exact .inl ⟨hnul, rfl⟩
  · rw [if_neg hnul]
    refine .inr ⟨hnul, ?_⟩
    cases w.files.read out.workspace.names path with
    | error cause => exact .inl ⟨cause, rfl, rfl⟩
    | ok bytes =>
      refine .inr ⟨bytes, rfl, ?_⟩
      rw [mapError_ok]
      dsimp only
      cases Text.Utf8.decode? bytes with
      | none => exact .inl ⟨rfl, rfl⟩
      | some cs => exact .inr ⟨cs, rfl, rfl⟩

/-- The text in the bytes of a file, with uniform line ends. -/
def textOf (bytes : List UInt8) : Except Fault (List Char) :=
  match Text.Utf8.decode? bytes with
  | some cs => .ok (Text.normalizeNewlines cs)
  | none => .error .undecodable

/-- The text of a file depends on its bytes only. -/
theorem perform_readText_eq (path : String) (out : Surroundings) (w : World) :
    (readText path).perform out w =
      ((if '\x00' ∈ path.toList then .error .nulInPath
        else (w.files.read out.workspace.names path).mapError (.file · path)) >>= textOf, w) := by
  rw [readText, perform_bind, perform_readBytes]
  cases (if '\x00' ∈ path.toList then Except.error Fault.nulInPath
    else (w.files.read out.workspace.names path).mapError (.file · path)) with
  | error e => rfl
  | ok bytes =>
    dsimp only [bind, Except.bind]
    rw [textOf]
    cases Text.Utf8.decode? bytes <;> rfl

theorem perform_readText {bytes : List UInt8} {cs : List Char} (hnul : '\x00' ∉ path.toList)
    (hread : w.files.read out.workspace.names path = .ok bytes)
    (hcs : Text.Utf8.decode? bytes = some cs) :
    (readText path).perform out w = (.ok (Text.normalizeNewlines cs), w) := by
  rw [perform_readText_eq, if_neg hnul, hread, mapError_ok]
  dsimp only [bind, Except.bind]
  rw [textOf, hcs]

theorem perform_isDirectory (path : String) (out : Surroundings) (w : World) :
    (isDirectory path).perform out w =
      (if '\x00' ∈ path.toList then .ok false
        else ((w.files.look? out.workspace.names path).mapError (.file · path)).map
          (fun found => decide (found = some .directory)), w) := by
  rw [isDirectory, perform_bind]
  unfold look?
  by_cases hnul : '\x00' ∈ path.toList
  · rw [if_pos (List.elem_eq_true_of_mem hnul), if_pos hnul]
    rfl
  · rw [if_neg (by simpa using hnul), if_neg hnul]
    simp only [perform_bind, perform_get, perform_here, perform_refused]
    cases w.files.look? out.workspace.names path <;> rfl

theorem perform_exists? (path : String) (out : Surroundings) (w : World) :
    (exists? path).perform out w =
      (if '\x00' ∈ path.toList then .ok false
        else ((w.files.look? out.workspace.names path).mapError (.file · path)).map Option.isSome,
        w) := by
  rw [exists?, perform_bind]
  unfold look?
  by_cases hnul : '\x00' ∈ path.toList
  · rw [if_pos (List.elem_eq_true_of_mem hnul), if_pos hnul]
    rfl
  · rw [if_neg (by simpa using hnul), if_neg hnul]
    simp only [perform_bind, perform_get, perform_here, perform_refused]
    cases w.files.look? out.workspace.names path <;> rfl

/-! ### Writing and moving -/

theorem perform_change_eq (c : Change) (out : Surroundings) (w : World) :
    (change c).perform out w = (.ok (), w.changedBy [c]) := rfl

theorem perform_openForWriting (path : String) (out : Surroundings) (w : World) :
    (openForWriting path).perform out w =
      if '\x00' ∈ path.toList then (.error .nulInPath, w)
      else match w.files.writable out.workspace.names path with
        | .error cause => (.error (.file cause path), w)
        | .ok place => (.ok place, w.changedBy [.write place []]) := by
  simp only [openForWriting, perform_bind, perform_requireNulFree, perform_get, perform_here,
    perform_refused]
  by_cases hnul : '\x00' ∈ path.toList
  · simp only [if_pos hnul]
  · simp only [if_neg hnul]
    cases w.files.writable out.workspace.names path <;> rfl

/-- A file that has been opened for writing could be written, and it has been left empty. -/
theorem openForWriting_ok {place : Place} {w' : World}
    (h : (openForWriting path).perform out w = (.ok place, w')) :
    '\x00' ∉ path.toList ∧ w.files.writable out.workspace.names path = .ok place ∧
      w' = w.changedBy [.write place []] := by
  rw [perform_openForWriting] at h
  split at h
  · cases h
  · split at h
    · cases h
    · cases h
      exact ⟨‹_›, ‹_›, rfl⟩

/-- Opening a file for writing leaves it empty, or nothing is changed. -/
theorem openForWriting_cases (path : String) (out : Surroundings) (w : World) :
    (∃ e, (openForWriting path).perform out w = (.error e, w)) ∨
      (openForWriting path).perform out w =
        (.ok (FileTree.placeOf out.workspace.names path),
          w.changedBy [.write (FileTree.placeOf out.workspace.names path) []]) := by
  rw [perform_openForWriting]
  split
  · exact .inl ⟨_, rfl⟩
  · cases hplace : w.files.writable out.workspace.names path with
    | error cause => exact .inl ⟨_, rfl⟩
    | ok place =>
      rw [← FileTree.writable_eq_ok hplace]
      exact .inr rfl

/-- A file that has been moved has a place, and another file may be written in its new place. -/
theorem renameFile_ok {source target : String} {w' : World}
    (h : (renameFile source target).perform out w = (.ok (), w')) :
    ∃ p q, w.files.locate out.workspace.names source = .ok p ∧
      w.files.writable out.workspace.names target = .ok q ∧ w' = w.changedBy [.rename p q] := by
  simp only [renameFile, perform_bind, perform_get, perform_here, perform_refused] at h
  cases hsource : w.files.locate out.workspace.names source with
  | error cause => rw [hsource] at h; cases h
  | ok p =>
    rw [hsource, mapError_ok] at h
    dsimp only at h
    cases htarget : w.files.writable out.workspace.names target with
    | error cause => rw [htarget] at h; cases h
    | ok q =>
      rw [htarget] at h
      cases h
      exact ⟨p, q, rfl, rfl, rfl⟩

/-- A file is moved in one change, or nothing is changed. -/
theorem renameFile_cases (source target : String) (out : Surroundings) (w : World) :
    (∃ e, (renameFile source target).perform out w = (.error e, w)) ∨
      (renameFile source target).perform out w =
        (.ok (), w.changedBy [.rename (FileTree.placeOf out.workspace.names source)
          (FileTree.placeOf out.workspace.names target)]) := by
  simp only [renameFile, perform_bind, perform_get, perform_here, perform_refused]
  cases hsource : w.files.locate out.workspace.names source with
  | error cause => exact .inl ⟨_, rfl⟩
  | ok p =>
    rw [mapError_ok]
    dsimp only
    cases htarget : w.files.writable out.workspace.names target with
    | error cause => exact .inl ⟨_, rfl⟩
    | ok q =>
      rw [← FileTree.locate_eq_ok hsource, ← FileTree.writable_eq_ok htarget]
      exact .inr rfl

/-! ### Making directories -/

section

variable {R : World → World → Prop} [IsPreorder World R]

theorem requireNulFree_respects (path : String) : Respects R (requireNulFree path) :=
  .ite (fun _ => .throw _) fun _ => .pure _

theorem refused_respects {α : Type} (path : String) (r : Except FileCause α) :
    Respects R (refused path r) := by
  cases r with
  | ok v => exact .pure v
  | error cause => exact .throw _

theorem look?_respects (path : String) : Respects R (look? path) :=
  .ite (fun _ => .pure _) fun _ => .bind .get fun _ => .bind (.bind .read fun _ => .pure _)
    fun _ => refused_respects _ _

theorem isDirectory_respects (path : String) : Respects R (isDirectory path) :=
  .bind (look?_respects path) fun _ => .pure _

/-- Reading a file does nothing to the world. -/
theorem readText_respects (path : String) : Respects R (readText path) := by
  refine .bind (.bind (requireNulFree_respects _) fun _ => .bind .get fun _ => ?_) fun bytes => ?_
  · exact .bind (.bind .read fun _ => .pure _) fun _ => refused_respects _ _
  · split
    · exact .pure _
    · exact .throw _

end

/-- A text is taken for something as if it were at hand. -/
theorem perform_ofReadText {α : Type} (f : List Char → Except Fault α) (path : String)
    (out : Surroundings) (w : World) :
    (do Act.ofExcept (f (← readText path))).perform out w =
      (((readText path).perform out w).1 >>= f, w) := by
  rw [perform_bind, perform_of_reads (readText_respects path)]
  cases ((readText path).perform out w).1 with
  | error e => rfl
  | ok cs => exact perform_ofExcept _ _ _

theorem makeOneDirectory_respects (path : String) :
    Respects World.MakesDirectories (makeOneDirectory path) := by
  refine .bind (requireNulFree_respects _) fun _ => .bind .get fun _ => ?_
  refine .bind (.bind .read fun _ => .pure _) fun _ => .bind (refused_respects _ _) fun place => ?_
  exact fun out w => ⟨[.makeDirectory place], rfl, List.forall_mem_singleton.mpr ⟨place, rfl⟩⟩

theorem ensureOneDirectory_respects (path : String) :
    Respects World.MakesDirectories (ensureOneDirectory path) := by
  refine .bind (.attempt (makeOneDirectory_respects path)) fun made => ?_
  cases made with
  | ok _ => exact .pure _
  | error e =>
    exact .bind (isDirectory_respects path) fun _ => .ite (fun _ => .pure _) fun _ => .throw _

theorem ensureDirectories_respects (root : String) (names : List String) :
    Respects World.MakesDirectories (ensureDirectories root names) := by
  induction names with
  | nil => exact .pure _
  | cons name parents ih =>
    refine .bind (.attempt (ensureOneDirectory_respects _)) fun made => ?_
    split
    · exact .pure _
    · exact .bind ih fun _ => ensureOneDirectory_respects _
    · exact .throw _

/-- Making sure of a directory makes directories at most. -/
theorem ensureDirectory_respects (path : Path) :
    Respects World.MakesDirectories (ensureDirectory path) :=
  ensureDirectories_respects _ _

end Act

end StepFlow
