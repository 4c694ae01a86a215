import StepFlow.Files.Tree

/-!
# Places and changes

What stands at a place depends only on the changes that touch it. Where a path leads is refused or
granted by a tree, but where it would lead is a matter of its names alone, and the last of these is
the last name of the place.

## Main definitions

* `Change.Touches` — a change alters what stands at a place
* `FileTree.HasFile` — a file stands at a place
* `FileTree.placeOf` — the place that a path denotes in every tree in which it denotes one
* `FileTree.KeepsDirectories` — paths that lead somewhere in one tree do so in another

## Main results

* `FileTree.get?_applyAll_of_not_touches` — changes leave alone what they do not touch
* `FileTree.locate_eq_ok` — a path leads to its place or nowhere
* `FileTree.read_put_of_writable` — what has been written to a file is read there
* `FileTree.exists_placeOf_append` — the last name of a place
-/

namespace StepFlow

/-- A change alters what stands at a place. -/
def Change.Touches (place : Place) : Change → Prop
  | .write p _ | .makeDirectory p | .remove p => p = place
  | .rename source target => source = place ∨ target = place

namespace FileTree

variable {t : FileTree} {place p : Place}

/-! ### What stands at a place -/

theorem get?_eq (t : FileTree) (h : place ≠ []) :
    t.get? place = (t.entries.find? (·.1 == place)).map (·.2) := by
  cases place with
  | nil => exact absurd rfl h
  | cons name rest => rfl

/-- Nothing is found among the entries of other places. -/
theorem find?_filter_self (entries : List (Place × Entry)) (place : Place) :
    (entries.filter (·.1 != place)).find? (·.1 == place) = none := by
  rw [List.find?_filter, List.find?_eq_none]
  intro e _
  by_cases h : e.1 = place <;> simp [h]

/-- What is found at a place is not among the entries of another one. -/
theorem find?_filter_of_ne (entries : List (Place × Entry)) (h : p ≠ place) :
    (entries.filter (·.1 != p)).find? (·.1 == place) = entries.find? (·.1 == place) := by
  rw [List.find?_filter]
  congr 1
  funext e
  by_cases he : e.1 = place
  · simp [he, Ne.symm h]
  · simp [he]

theorem get?_put_self (t : FileTree) (h : place ≠ []) (e : Entry) :
    (t.put place e).get? place = some e := by
  rw [get?_eq _ h, put, List.find?_append, find?_filter_self]
  simp

theorem get?_put_of_ne (t : FileTree) (h : p ≠ place) (e : Entry) :
    (t.put p e).get? place = t.get? place := by
  by_cases hroot : place = []
  · rw [hroot]
    rfl
  · rw [get?_eq _ hroot, get?_eq _ hroot, put, List.find?_append, find?_filter_of_ne _ h]
    simp [h]

theorem get?_erase_of_ne (t : FileTree) (h : p ≠ place) :
    (t.erase p).get? place = t.get? place := by
  by_cases hroot : place = []
  · rw [hroot]
    rfl
  · rw [get?_eq _ hroot, get?_eq _ hroot, erase, find?_filter_of_ne _ h]

/-! ### Changes -/

@[simp] theorem applyAll_nil (t : FileTree) : t.applyAll [] = t := rfl

@[simp] theorem applyAll_cons (t : FileTree) (c : Change) (cs : List Change) :
    t.applyAll (c :: cs) = (t.apply c).applyAll cs := rfl

theorem applyAll_append (t : FileTree) (cs ds : List Change) :
    t.applyAll (cs ++ ds) = (t.applyAll cs).applyAll ds :=
  List.foldl_append

theorem get?_apply_of_not_touches {c : Change} (h : ¬c.Touches place) :
    (t.apply c).get? place = t.get? place := by
  cases c with
  | write p bytes => exact get?_put_of_ne t h _
  | makeDirectory p => exact get?_put_of_ne t h _
  | remove p => exact get?_erase_of_ne t h
  | rename source target =>
    rw [Change.Touches, not_or] at h
    rw [apply]
    cases t.get? source with
    | none => rfl
    | some e => exact (get?_put_of_ne _ h.2 e).trans (get?_erase_of_ne t h.1)

/-- **Changes leave alone what they do not touch.** -/
theorem get?_applyAll_of_not_touches {cs : List Change} (h : ∀ c ∈ cs, ¬c.Touches place) :
    (t.applyAll cs).get? place = t.get? place := by
  induction cs generalizing t with
  | nil => rfl
  | cons c cs ih =>
    rw [List.forall_mem_cons] at h
    rw [applyAll_cons, ih h.2, get?_apply_of_not_touches h.1]

/-- What stands at a place after it has been moved there. -/
theorem get?_apply_rename {source target : Place} {e : Entry} (h : t.get? source = some e)
    (htarget : target ≠ []) : (t.apply (.rename source target)).get? target = some e := by
  rw [apply, h]
  exact get?_put_self _ htarget e

/-- A file stands at a place. -/
def HasFile (t : FileTree) (place : Place) : Prop := ∃ bytes, t.get? place = some (.file bytes)

/-- Directories that are made are no files. -/
theorem hasFile_of_applyAll {cs : List Change} (hcs : ∀ c ∈ cs, ∃ p, c = .makeDirectory p)
    (h : (t.applyAll cs).HasFile place) : t.HasFile place := by
  induction cs generalizing t with
  | nil => exact h
  | cons c cs ih =>
    rw [List.forall_mem_cons] at hcs
    obtain ⟨⟨p, rfl⟩, hcs⟩ := hcs
    obtain ⟨bytes, hfile⟩ := ih hcs h
    by_cases hp : p = place
    · rw [apply, hp] at hfile
      cases place with
      | nil => cases hfile
      | cons name rest =>
        rw [get?_put_self _ (List.cons_ne_nil _ _)] at hfile
        cases hfile
    · exact ⟨bytes, (get?_put_of_ne t hp _).symm.trans hfile⟩

/-! ### The place of a path -/

/-- Follow names from a place, whatever stands there. -/
def walk : Place → List String → Place
  | here, [] => here
  | here, name :: rest =>
    if name = "." || name = "" then walk here rest
    else if name = ".." then walk here.dropLast rest
    else walk (here ++ [name]) rest

/-- The place that a path denotes in every tree in which it denotes one. -/
def placeOf (here : Place) (path : String) : Place :=
  walk (if path.toList.head? = some '/' then [] else here)
    ((splitNames path.toList).map String.ofList)

theorem follow_eq_ok {here : Place} {names : List String} (h : t.follow here names = .ok p) :
    p = walk here names := by
  induction names generalizing here with
  | nil =>
    cases h
    rfl
  | cons name rest ih =>
    unfold follow at h
    unfold walk
    split at h
    · rw [if_pos ‹_›]
      exact ih h
    · rw [if_neg ‹_›]
      split at h
      · rw [if_pos ‹_›]
        exact ih h
      · rw [if_neg ‹_›]
        split at h
        · cases h
        · dsimp only at h
          split at h
          · rename_i hlast
            cases h
            rw [List.isEmpty_iff.mp hlast]
            rfl
          · split at h
            · exact ih h
            · cases h
            · cases h

/-- A path leads to its place or nowhere. -/
theorem locate_eq_ok {here : Place} {path : String} (h : t.locate here path = .ok p) :
    p = placeOf here path := by
  unfold locate at h
  split at h
  · cases h
  · split at h
    · cases h
    · exact follow_eq_ok h

/-- What is found by a path stands at its place. Files are not found by a path with a slash behind
it. -/
theorem stat_eq_ok_iff {here : Place} {path : String} {e : Entry} :
    t.stat here path = .ok e ↔ ∃ p, t.locate here path = .ok p ∧
    t.get? p = some e ∧ (e = .directory ∨ path.toList.getLast? ≠ some '/') := by
  rw [stat]
  cases t.locate here path with
  | error cause => exact iff_of_false nofun nofun
  | ok p =>
    simp only [bind, Except.bind, Except.ok.injEq, exists_eq_left']
    cases hp : t.get? p with
    | none => exact iff_of_false nofun nofun
    | some e' =>
      dsimp only
      by_cases hslash : e' ≠ .directory ∧ path.toList.getLast? = some '/'
      · rw [if_pos (by simpa using hslash)]
        refine iff_of_false nofun ?_
        rintro ⟨he, hok⟩
        cases he
        exact hok.elim hslash.1 fun hlast => hlast hslash.2
      · rw [if_neg (by simpa using hslash)]
        have hok : e' = .directory ∨ path.toList.getLast? ≠ some '/' := by
          by_cases he' : e' = .directory
          · exact .inl he'
          · exact .inr fun hlast => hslash ⟨he', hlast⟩
        constructor
        · intro h
          cases h
          exact ⟨rfl, hok⟩
        · rintro ⟨h, -⟩
          cases h
          rfl

theorem look?_eq_ok_some_iff {here : Place} {path : String} {e : Entry} :
    t.look? here path = .ok (some e) ↔ t.stat here path = .ok e := by
  unfold look?
  cases t.stat here path with
  | ok e' => exact ⟨fun h => by cases h; rfl, fun h => by cases h; rfl⟩
  | error cause => cases cause <;> exact iff_of_false nofun nofun

theorem read_eq_ok_iff {here : Place} {path : String} {bytes : List UInt8} :
    t.read here path = .ok bytes ↔ t.stat here path = .ok (.file bytes) := by
  rw [read]
  cases t.stat here path with
  | error cause => exact iff_of_false nofun nofun
  | ok e =>
    cases e with
    | file bytes' => exact ⟨fun h => by cases h; rfl, fun h => by cases h; rfl⟩
    | directory => exact iff_of_false nofun nofun

theorem get?_of_stat_eq_ok {here : Place} {path : String} {e : Entry}
    (h : t.stat here path = .ok e) : t.get? (placeOf here path) = some e := by
  obtain ⟨p, hp, he, -⟩ := stat_eq_ok_iff.mp h
  rwa [← locate_eq_ok hp]

theorem get?_of_read_eq_ok {here : Place} {path : String} {bytes : List UInt8}
    (h : t.read here path = .ok bytes) : t.get? (placeOf here path) = some (.file bytes) :=
  get?_of_stat_eq_ok (read_eq_ok_iff.mp h)

/-- Where a file can be read, it is found. -/
theorem look?_of_read {here : Place} {path : String} {bytes : List UInt8}
    (h : t.read here path = .ok bytes) : t.look? here path = .ok (some (.file bytes)) :=
  look?_eq_ok_some_iff.mpr (read_eq_ok_iff.mp h)

/-- A path that may be written leads to its place, and there is no directory. -/
theorem locate_of_writable {here : Place} {path : String} (h : t.writable here path = .ok p) :
    t.locate here path = .ok p ∧ t.get? p ≠ some .directory := by
  unfold writable at h
  cases hplace : t.locate here path with
  | error cause =>
    rw [hplace] at h
    cases h
  | ok q =>
    rw [hplace] at h
    dsimp only [bind, Except.bind] at h
    split at h
    · cases h
    · rename_i hfile
      cases h
      exact ⟨rfl, by rw [hfile]; nofun⟩
    · rename_i hnone
      split at h
      · cases h
        exact ⟨rfl, by rw [hnone]; nofun⟩
      · cases h
      · cases h

/-- A file can only be written at the place of its path. -/
theorem writable_eq_ok {here : Place} {path : String} (h : t.writable here path = .ok p) :
    p = placeOf here path :=
  locate_eq_ok (locate_of_writable h).1

/-! ### Reading what has been written -/

/-- Every directory of one tree is a directory of another one. -/
def KeepsDirectories (t t' : FileTree) : Prop :=
  ∀ p, t.get? p = some .directory → t'.get? p = some .directory

theorem keepsDirectories_put (hp : t.get? p ≠ some .directory) (e : Entry) :
    t.KeepsDirectories (t.put p e) := by
  intro q hq
  have hne : p ≠ q := fun heq => hp (heq ▸ hq)
  exact (get?_put_of_ne t hne e).trans hq

theorem keepsDirectories_rename {source target : Place} {bytes : List UInt8}
    (hsource : t.get? source = some (.file bytes)) (htarget : t.get? target ≠ some .directory) :
    t.KeepsDirectories (t.apply (.rename source target)) := by
  intro q hq
  have hne : ¬(Change.rename source target).Touches q := by
    rintro (rfl | rfl)
    · cases hsource.symm.trans hq
    · exact htarget hq
  rw [get?_apply_of_not_touches hne, hq]

/-- A path leads where it has led before, as long as the directories on its way stay. -/
theorem KeepsDirectories.follow {t' : FileTree} (hkeep : t.KeepsDirectories t') {here q : Place}
    {names : List String} (h : t.follow here names = .ok q) : t'.follow here names = .ok q := by
  induction names generalizing here with
  | nil => exact h
  | cons name rest ih =>
    unfold FileTree.follow at h ⊢
    split at h
    · rw [if_pos ‹_›]
      exact ih h
    · rw [if_neg ‹_›]
      split at h
      · rw [if_pos ‹_›]
        exact ih h
      · rw [if_neg ‹_›]
        split at h
        · cases h
        · rw [if_neg ‹_›]
          dsimp only at h ⊢
          split at h
          · rw [if_pos ‹_›]
            exact h
          · rw [if_neg ‹_›]
            split at h
            · rename_i hdirectory
              rw [hkeep _ hdirectory]
              exact ih h
            · cases h
            · cases h

theorem KeepsDirectories.locate {t' : FileTree} (hkeep : t.KeepsDirectories t') {here q : Place}
    {path : String} (h : t.locate here path = .ok q) : t'.locate here path = .ok q := by
  unfold FileTree.locate at h ⊢
  split at h
  · cases h
  · rw [if_neg ‹_›]
    split at h
    · cases h
    · rw [if_neg ‹_›]
      exact hkeep.follow h

/-- The file at the place of a path is read there. -/
theorem read_of_locate {here : Place} {path : String} {bytes : List UInt8}
    (h : t.locate here path = .ok p) (hpath : path.toList.getLast? ≠ some '/')
    (hp : t.get? p = some (.file bytes)) : t.read here path = .ok bytes :=
  read_eq_ok_iff.mpr (stat_eq_ok_iff.mpr ⟨p, h, hp, .inr hpath⟩)

/-- **What has been written to a file is read there.** -/
theorem read_put_of_writable {here : Place} {path : String} (h : t.writable here path = .ok p)
    (hpath : path.toList.getLast? ≠ some '/') (bytes bytes' : List UInt8) :
    ((t.put p (.file bytes)).put p (.file bytes')).read here path = .ok bytes' := by
  obtain ⟨hlocate, hp⟩ := locate_of_writable h
  have hroot : p ≠ [] := by
    rintro rfl
    exact hp rfl
  have hempty : (t.put p (.file bytes)).get? p ≠ some .directory := by
    rw [get?_put_self t hroot]
    nofun
  have hopened := (keepsDirectories_put hp (.file bytes)).locate hlocate
  have hfilled := (keepsDirectories_put hempty (.file bytes')).locate hopened
  exact read_of_locate hfilled hpath (get?_put_self _ hroot _)

/-! ### Last names -/

/-- The names in a path have no slashes. -/
theorem not_mem_of_mem_splitNames {s name : List Char} (h : name ∈ splitNames s) : '/' ∉ name := by
  induction s generalizing name with
  | nil =>
    cases List.mem_singleton.mp h
    exact List.not_mem_nil
  | cons c s ih =>
    rw [splitNames, List.foldr_cons, ← splitNames] at h
    split at h
    · rcases List.mem_cons.mp h with rfl | h
      · exact List.not_mem_nil
      · exact ih h
    · have hc : ¬ '/' = c := fun he => absurd he.symm ‹_›
      split at h
      · cases List.mem_singleton.mp h
        simpa using hc
      · rename_i n ns hns
        rcases List.mem_cons.mp h with rfl | h
        · have hn := ih (hns ▸ List.mem_cons_self)
          rw [List.mem_cons, not_or]
          exact ⟨hc, hn⟩
        · exact ih (hns ▸ List.mem_cons_of_mem _ h)

/-- A text without slashes belongs to the last name of a path that ends in it. -/
theorem exists_splitNames_append (a : List Char) :
    ∃ names rest, ∀ b, '/' ∉ b → splitNames (a ++ b) = names ++ [rest ++ b] := by
  induction a with
  | nil =>
    refine ⟨[], [], fun b hb => ?_⟩
    induction b with
    | nil => rfl
    | cons c b ih =>
      rw [List.mem_cons, not_or] at hb
      have hb' := ih hb.2
      simp only [List.nil_append] at hb' ⊢
      rw [splitNames, List.foldr_cons, ← splitNames, hb', if_neg (Ne.symm hb.1)]
  | cons c a ih =>
    obtain ⟨names, rest, hsplit⟩ := ih
    by_cases hc : c = '/'
    · refine ⟨[] :: names, rest, fun b hb => ?_⟩
      rw [List.cons_append, splitNames, List.foldr_cons, ← splitNames, hsplit b hb, if_pos hc]
      rfl
    · cases names with
      | nil =>
        refine ⟨[], c :: rest, fun b hb => ?_⟩
        rw [List.cons_append, splitNames, List.foldr_cons, ← splitNames, hsplit b hb, if_neg hc]
        rfl
      | cons n names =>
        refine ⟨(c :: n) :: names, rest, fun b hb => ?_⟩
        rw [List.cons_append, splitNames, List.foldr_cons, ← splitNames, hsplit b hb, if_neg hc]
        rfl

/-- A name that is no dots is the last one of the place that it leads to. -/
theorem walk_append_singleton (here : Place) (names : List String) {name : String}
    (h : 2 < name.length) : walk here (names ++ [name]) = walk here names ++ [name] := by
  have hname : name ≠ "." ∧ name ≠ "" ∧ name ≠ ".." := by
    refine ⟨?_, ?_, ?_⟩ <;> (rintro rfl; exact absurd h (by decide))
  induction names generalizing here with
  | nil => simp [walk, hname]
  | cons n names ih =>
    rw [List.cons_append]
    unfold walk
    simp only [ih]
    split
    · rfl
    · split <;> rfl

/-- **The last name of a place.** Paths that differ in their last names only lead to places that do
so, too. -/
theorem exists_placeOf_append (here : Place) (a : String) :
    ∃ above rest, ∀ b : String, '/' ∉ b.toList → 2 < b.length →
      placeOf here (a ++ b) = above ++ [rest ++ b] := by
  obtain ⟨names, rest, hsplit⟩ := exists_splitNames_append a.toList
  refine ⟨walk (if a.toList.head? = some '/' then [] else here) (names.map String.ofList),
    String.ofList rest, fun b hb hlength => ?_⟩
  have hhead : (a ++ b).toList.head? = some '/' ↔ a.toList.head? = some '/' := by
    rw [String.toList_append]
    cases hchars : a.toList with
    | nil =>
      rw [List.nil_append, List.head?_nil]
      refine iff_of_false (fun h => hb ?_) nofun
      exact List.mem_of_mem_head? h
    | cons c cs => rfl
  have hlast : String.ofList (rest ++ b.toList) = String.ofList rest ++ b := by
    rw [String.ofList_append, String.ofList_toList]
  have hlong : 2 < (String.ofList rest ++ b).length := by
    rw [String.length_append]
    omega
  rw [placeOf, String.toList_append, hsplit _ hb, List.map_append, List.map_singleton, hlast,
    walk_append_singleton _ _ hlong, ← String.toList_append]
  simp only [hhead]

end FileTree

namespace Path

/-- The text of a path ends in its last name. -/
theorem exists_text_append (root : String) (names : List String) :
    ∃ a, ∀ name, text ⟨root, names ++ [name]⟩ = a ++ name := by
  cases names with
  | nil => exact ⟨root, fun name => by simp [text]⟩
  | cons n names =>
    refine ⟨root ++ ("/".intercalate (n :: names) ++ "/"), fun name => ?_⟩
    rw [text, if_neg (by simp), String.intercalate_append_of_ne_nil (by simp) (by simp),
      String.intercalate_singleton, String.append_assoc, String.append_assoc, String.append_assoc]

/-- A text without slashes belongs to the last name of a path that ends in it, unless this could be
a dot. -/
theorem exists_names_ofText_append (s : String) :
    ∃ names rest, '/' ∉ rest ∧ ∀ b : String, '/' ∉ b.toList → 1 < b.length →
      (ofText (s ++ b)).names = names ++ [String.ofList (rest ++ b.toList)] := by
  obtain ⟨names, rest, hsplit⟩ := FileTree.exists_splitNames_append s.toList
  refine ⟨(names.filter fun n => !n.isEmpty && n ≠ ['.']).map String.ofList, rest, ?_, ?_⟩
  · have hnames := hsplit [] List.not_mem_nil
    rw [List.append_nil, List.append_nil] at hnames
    apply FileTree.not_mem_of_mem_splitNames
    rw [hnames]
    exact List.mem_append_right _ (List.mem_singleton.mpr rfl)
  · intro b hb hlength
    have hlong : 1 < (rest ++ b.toList).length := by
      rw [List.length_append, String.length_toList]
      omega
    have hkeep : [rest ++ b.toList].filter (fun n => !n.isEmpty && n ≠ ['.']) =
        [rest ++ b.toList] := by
      rw [List.filter_eq_self]
      intro n hn
      cases List.mem_singleton.mp hn
      rcases hchars : rest ++ b.toList with _ | ⟨c, _ | ⟨d, cs⟩⟩
      · rw [hchars] at hlong
        exact absurd hlong (by decide)
      · rw [hchars] at hlong
        exact absurd hlong (by simp)
      · simp
    rw [ofText, String.toList_append, hsplit _ hb, List.filter_append, hkeep, List.map_append,
      List.map_singleton]

end Path

end StepFlow
