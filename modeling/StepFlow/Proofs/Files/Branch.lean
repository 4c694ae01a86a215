import StepFlow.Proofs.Files.Spelling
import Mathlib.Data.List.Nodup

/-!
# Branches of file trees

Below a directory a file tree looks like a tree of its own: a `Branch` says what stands at each place
below and which names each directory has. This is all that the system tells of the directory, by
whatever path it is reached: in a sound tree every path that spells a place leads there, as long as
the path is not too long for the system.

## Main definitions

* `FileTree.Sound` — every place of a tree has a name that the system allows, and a directory above
* `Branch`, `FileTree.Offers.branch` — what lies below a directory
* `FileTree.Offers` — a directory of a sound tree, with nothing below it out of reach

## Main results

* `FileTree.mem_namesIn` — the names in a directory
* `FileTree.Sound.stat_spelled` — what stands where a spelled path leads
* `FileTree.Sound.list_spelled` — the names that are listed there
* `FileTree.Sound.look?_text_of_none` — why looking where nothing stands may fail
-/

namespace StepFlow

/-- A name that the system allows. -/
structure IsFileName (name : String) : Prop extends Path.IsName name where
  nul_free : '\x00' ∉ name.toList
  short : name.utf8ByteSize ≤ FileTree.longestName

theorem isFileName_iff {name : String} : IsFileName name ↔
    (((name ≠ "" ∧ name ≠ "." ∧ '/' ∉ name.toList) ∧ name ≠ "..") ∧ '\x00' ∉ name.toList ∧
      name.utf8ByteSize ≤ FileTree.longestName) := by
  constructor
  · intro h
    exact ⟨⟨⟨h.ne_empty, h.ne_dot, h.no_slash⟩, h.ne_dots⟩, h.nul_free, h.short⟩
  · rintro ⟨⟨⟨hempty, hdot, hslash⟩, hdots⟩, hnul, hshort⟩
    exact ⟨⟨⟨hempty, hdot, hslash⟩, hdots⟩, hnul, hshort⟩

instance (name : String) : Decidable (IsFileName name) := decidable_of_iff' _ isFileName_iff

/-- Where something stands in directories only, what it stands below is a directory. -/
theorem directory_of_isSome_append {entry : Place → Option Entry}
    (h : ∀ r n, (entry (r ++ [n])).isSome → entry r = some .directory) {r g : Place} (hg : g ≠ [])
    (hsome : (entry (r ++ g)).isSome) : entry r = some .directory := by
  induction g using List.reverseRecOn with
  | nil => exact absurd rfl hg
  | append_singleton g n ih =>
    rw [← List.append_assoc] at hsome
    have hdirectory := h _ _ hsome
    by_cases hnil : g = []
    · rwa [hnil, List.append_nil] at hdirectory
    · exact ih hnil (by rw [hdirectory]; rfl)

/-- Some name is too long, and those before it lead to a directory. -/
def Overlong (entry : Place → Option Entry) (r : List String) : Prop :=
  ∃ a n z, r = a ++ n :: z ∧ FileTree.longestName < n.utf8ByteSize ∧ entry a = some .directory

theorem not_overlong_nil {entry : Place → Option Entry} : ¬Overlong entry [] := by
  rintro ⟨a, n, z, hsplit, -⟩
  simp at hsplit

theorem overlong_cons_iff {entry : Place → Option Entry} {n : String} {r : List String} :
    Overlong entry (n :: r) ↔
      (FileTree.longestName < n.utf8ByteSize ∧ entry [] = some .directory) ∨
        Overlong (fun a => entry (n :: a)) r := by
  constructor
  · rintro ⟨a, m, z, hsplit, hm, ha⟩
    cases a with
    | nil =>
      cases hsplit
      exact .inl ⟨hm, ha⟩
    | cons n' a =>
      cases hsplit
      exact .inr ⟨a, m, z, rfl, hm, ha⟩
  · rintro (⟨hn, hroot⟩ | ⟨a, m, z, rfl, hm, ha⟩)
    · exact ⟨[], n, r, rfl, hn, hroot⟩
    · exact ⟨n :: a, m, z, rfl, hm, ha⟩

namespace FileTree

variable {t : FileTree} {p q : Place} {n : String}

/-- A tree as it can come about: a place has one entry at most, its names are allowed, and it lies in
a directory. -/
structure Sound (t : FileTree) : Prop where
  distinct : (t.entries.map (·.1)).Nodup
  ne_root : ∀ e ∈ t.entries, e.1 ≠ []
  names : ∀ e ∈ t.entries, ∀ n ∈ e.1, IsFileName n
  parents : ∀ e ∈ t.entries, t.get? e.1.dropLast = some .directory

theorem exists_entry (h : (t.get? q).isSome) (hq : q ≠ []) : ∃ e ∈ t.entries, e.1 = q := by
  rw [get?_eq t hq, Option.isSome_map, List.find?_isSome] at h
  obtain ⟨e, he, heq⟩ := h
  exact ⟨e, he, by simpa using heq⟩

theorem isSome_get? {e : Place × Entry} (he : e ∈ t.entries) : (t.get? e.1).isSome := by
  by_cases hroot : e.1 = []
  · rw [hroot]
    rfl
  · rw [get?_eq t hroot, Option.isSome_map, List.find?_isSome]
    exact ⟨e, he, by simp⟩

/-- What is listed are the names in a directory. -/
theorem exists_of_list_ok {here : Place} {path : String} {names : List String}
    (h : t.list here path = .ok names) : ∃ q, names = t.namesIn q := by
  rw [list] at h
  cases hstat : t.stat here path with
  | error cause =>
    rw [hstat] at h
    cases h
  | ok e =>
    rw [hstat] at h
    cases e with
    | file bytes => cases h
    | directory =>
      dsimp only [bind, Except.bind] at h
      cases hplace : t.locate here path with
      | error cause =>
        rw [hplace] at h
        cases h
      | ok q =>
        rw [hplace] at h
        cases h
        exact ⟨q, rfl⟩

/-- The name by which a place is found in a directory, if it lies there. -/
def nameIn? (q p : Place) : Option String :=
  match q.isPrefixOf? p with
  | some [name] => some name
  | _ => none

theorem nameIn?_eq_some_iff : nameIn? q p = some n ↔ p = q ++ [n] := by
  unfold nameIn?
  constructor
  · intro h
    split at h
    · rename_i hprefix
      cases h
      exact (List.isPrefixOf?_eq_some_iff_append_eq.mp hprefix).symm
    · cases h
  · rintro rfl
    rw [List.isPrefixOf?_eq_some_iff_append_eq.mpr rfl]

theorem namesIn_eq (t : FileTree) (q : Place) :
    t.namesIn q = (t.entries.map (·.1)).filterMap (nameIn? q) := by
  rw [List.filterMap_map]
  rfl

/-- The names in a directory are those that have something standing there. -/
theorem mem_namesIn : n ∈ t.namesIn q ↔ (t.get? (q ++ [n])).isSome := by
  rw [namesIn_eq, List.mem_filterMap]
  constructor
  · rintro ⟨p, hp, hname⟩
    obtain ⟨e, he, rfl⟩ := List.mem_map.mp hp
    rw [← nameIn?_eq_some_iff.mp hname]
    exact isSome_get? he
  · intro h
    obtain ⟨e, he, heq⟩ := exists_entry h (by simp)
    exact ⟨e.1, List.mem_map_of_mem he, nameIn?_eq_some_iff.mpr heq⟩

namespace Sound

variable (h : t.Sound)

include h

theorem nodup_namesIn (q : Place) : (t.namesIn q).Nodup := by
  rw [namesIn_eq]
  refine h.distinct.filterMap fun p p' name hp hp' => ?_
  rw [nameIn?_eq_some_iff.mp hp, nameIn?_eq_some_iff.mp hp']

theorem isFileName (hq : (t.get? q).isSome) : ∀ n ∈ q, IsFileName n := by
  by_cases hroot : q = []
  · rw [hroot]
    exact nofun
  · obtain ⟨e, he, rfl⟩ := exists_entry hq hroot
    exact h.names e he

/-- Something stands in directories only. -/
theorem directory_of_isSome (hq : (t.get? (q ++ [n])).isSome) : t.get? q = some .directory := by
  obtain ⟨e, he, heq⟩ := exists_entry hq (by simp)
  have hparent := h.parents e he
  rwa [heq, List.dropLast_concat] at hparent

theorem directory_of_isSome_append {r : Place} (hr : r ≠ []) (hq : (t.get? (q ++ r)).isSome) :
    t.get? q = some .directory :=
  StepFlow.directory_of_isSome_append (fun _ _ => h.directory_of_isSome) hr hq

/-- Names lead to their place, and names that follow are taken from there. -/
theorem follow_append {r s : List String} (hq : (t.get? (q ++ r)).isSome)
    (hs : s = [] ∨ t.get? (q ++ r) = some .directory) :
    t.follow q (r ++ s) = t.follow (q ++ r) s := by
  induction r generalizing q with
  | nil => rw [List.nil_append, List.append_nil]
  | cons n r ih =>
    rw [← List.singleton_append, ← List.append_assoc] at hq hs
    have hn : IsFileName n := h.isFileName hq n (by simp)
    rw [List.cons_append, follow, if_neg (by simp [hn.ne_dot, hn.ne_empty]), if_neg hn.ne_dots,
      if_neg (Nat.not_lt.mpr hn.short)]
    rw [show q ++ n :: r = q ++ [n] ++ r by simp]
    by_cases hlast : r ++ s = []
    · obtain ⟨rfl, rfl⟩ := List.append_eq_nil_iff.mp hlast
      rw [List.append_nil, List.append_nil]
      rfl
    · have hdirectory : t.get? (q ++ [n]) = some .directory := by
        by_cases hr : r = []
        · subst hr
          rw [List.append_nil] at hs
          exact hs.resolve_left fun hnil => hlast hnil
        · exact h.directory_of_isSome_append hr hq
      rw [if_neg (by simpa using hlast), hdirectory]
      exact ih hq hs

/-- Following names from a directory comes upon a name that is too long just if there is one, and all
before it lead through directories. -/
theorem follow_eq_nameTooLong_iff {r : List String} (hq : t.get? q = some .directory)
    (hr : ∀ n ∈ r, Path.IsName n) :
    t.follow q r = .error .nameTooLong ↔ Overlong (fun a => t.get? (q ++ a)) r := by
  induction r generalizing q with
  | nil => exact iff_of_false nofun not_overlong_nil
  | cons n r ih =>
    obtain ⟨hn, hr⟩ := List.forall_mem_cons.mp hr
    rw [overlong_cons_iff, follow, if_neg (by simp [hn.ne_dot, hn.ne_empty]), if_neg hn.ne_dots]
    by_cases hlong : longestName < n.utf8ByteSize
    · rw [if_pos hlong]
      exact iff_of_true rfl (.inl ⟨hlong, by rwa [List.append_nil]⟩)
    · rw [if_neg hlong, or_iff_right fun hboth => hlong hboth.1]
      -- A long name further on counts if the first one leads to a directory.
      have hdirectory (hrest : Overlong (fun a => t.get? (q ++ n :: a)) r) :
          t.get? (q ++ [n]) = some .directory := by
        obtain ⟨a, m, z, -, -, ha⟩ := hrest
        dsimp only at ha
        by_cases hnil : a = []
        · rwa [hnil] at ha
        · refine h.directory_of_isSome_append hnil ?_
          rw [List.append_assoc, List.singleton_append, ha]
          rfl
      cases r with
      | nil => exact iff_of_false nofun not_overlong_nil
      | cons m r =>
        rw [if_neg (by simp)]
        cases hnext : t.get? (q ++ [n]) with
        | none =>
          refine iff_of_false nofun fun hrest => ?_
          rw [hdirectory hrest] at hnext
          cases hnext
        | some e =>
          cases e with
          | file bytes =>
            refine iff_of_false nofun fun hrest => ?_
            rw [hdirectory hrest] at hnext
            cases hnext
          | directory =>
            have hrest := ih hnext hr
            simp only [List.append_assoc, List.singleton_append] at hrest
            exact hrest

end Sound

/-- Empty names lead nowhere else. -/
theorem follow_replicate (t : FileTree) (q : Place) (k : Nat) (r : List String) :
    t.follow q (List.replicate k "" ++ r) = t.follow q r := by
  induction k with
  | zero => rfl
  | succ k ih =>
    rw [List.replicate_succ, List.cons_append, follow, if_pos (by simp)]
    exact ih

/-! ### Spelled paths -/

variable {path : Path}

/-- The names of a path are followed from the root, if the text is not too long. -/
theorem locate_spelled (hpath : path.IsResolved) (here : Place) (slash : Bool) :
    ∃ trail, (slash = false → trail = []) ∧ (trail = [] ∨ trail = [""]) ∧
      t.locate here (path.spelled slash) =
        if longestPath < (path.spelled slash).utf8ByteSize then .error .nameTooLong
        else t.follow [] (path.names ++ trail) := by
  obtain ⟨k, trail, hslash, htrail, hsplit⟩ := splitNames_spelled hpath slash
  refine ⟨trail, hslash, htrail, ?_⟩
  have hhead : (path.spelled slash).toList.head? = some '/' := Path.head?_spelled hpath.root _ _
  rw [locate, if_neg (Path.spelled_ne_empty hpath.root _ _)]
  by_cases hlong : longestPath < (path.spelled slash).utf8ByteSize
  · rw [if_pos hlong, if_pos hlong]
    rfl
  · rw [if_neg hlong, if_neg hlong, if_pos hhead, hsplit]
    exact follow_replicate t [] k _

theorem locate_text (hpath : path.IsResolved) (here : Place)
    (hshort : path.text.utf8ByteSize ≤ longestPath) :
    t.locate here path.text = t.follow [] path.names := by
  obtain ⟨trail, hplain, -, hlocate⟩ := locate_spelled (t := t) hpath here false
  rw [Path.spelled_false, if_neg (Nat.not_lt.mpr hshort), hplain rfl, List.append_nil] at hlocate
  exact hlocate

/-- A path leads to the place of its names or nowhere, with a slash behind it or not. -/
theorem placeOf_spelled (hpath : path.IsResolved) (here : Place) (slash : Bool) :
    placeOf here (path.spelled slash) = path.names := by
  rw [placeOf_eq_walk (Path.head?_spelled hpath.root _ _), Path.ofText_spelled hpath.normal,
    walk_names hpath.names, List.nil_append]

theorem get?_of_stat_spelled (hpath : path.IsResolved) {here : Place} (slash : Bool) {e : Entry}
    (hstat : t.stat here (path.spelled slash) = .ok e) : t.get? path.names = some e := by
  rw [← placeOf_spelled hpath here slash]
  exact get?_of_stat_eq_ok hstat

namespace Sound

variable (h : t.Sound)

include h

/-- A spelled path leads to its place if its text is not too long and something stands there, which
must be a directory if the path has a slash behind it. -/
theorem locate_spelled_eq (hpath : path.IsResolved) {here : Place} {slash : Bool}
    (hshort : (path.spelled slash).utf8ByteSize ≤ longestPath) (he : (t.get? path.names).isSome)
    (hslash : slash = false ∨ t.get? path.names = some .directory) :
    t.locate here (path.spelled slash) = .ok path.names := by
  obtain ⟨trail, hplain, htrail, hlocate⟩ := locate_spelled (t := t) hpath here slash
  have hdirectory : trail = [] ∨ t.get? path.names = some .directory := hslash.imp_left hplain
  rw [hlocate, if_neg (Nat.not_lt.mpr hshort), h.follow_append (by rwa [List.nil_append])
    (by rwa [List.nil_append]), List.nil_append]
  rcases htrail with rfl | rfl <;> rfl

theorem stat_spelled (hpath : path.IsResolved) {here : Place} (slash : Bool) {e : Entry}
    (hshort : (path.spelled slash).utf8ByteSize ≤ longestPath) (he : t.get? path.names = some e)
    (hslash : slash = false ∨ e = .directory) : t.stat here (path.spelled slash) = .ok e := by
  have hlocate : t.locate here (path.spelled slash) = .ok path.names := by
    refine h.locate_spelled_eq hpath hshort (by simp [he]) (hslash.imp_right ?_)
    rintro rfl
    exact he
  have hplain : ¬(e ≠ .directory && (path.spelled slash).toList.getLast? = some '/') = true := by
    by_cases hdirectory : e = .directory
    · simp [hdirectory]
    · obtain rfl := hslash.resolve_right hdirectory
      have hroot : path.names ≠ [] := fun hroot => by
        rw [hroot] at he
        exact hdirectory (Option.some.inj he).symm
      have hlast : path.text.toList.getLast? ≠ some '/' :=
        mt (Path.getLast?_text hpath.root hpath.normal.parts).mp hroot
      simp [hlast]
  rw [stat, hlocate]
  dsimp only [bind, Except.bind]
  rw [he]
  dsimp only
  rw [if_neg hplain]
  rfl

theorem stat_text (hpath : path.IsResolved) {here : Place} {e : Entry}
    (hshort : path.text.utf8ByteSize ≤ longestPath) (he : t.get? path.names = some e) :
    t.stat here path.text = .ok e :=
  h.stat_spelled hpath false hshort he (.inl rfl)

theorem exists?_text (hpath : path.IsResolved) (here : Place)
    (hshort : (t.get? path.names).isSome → path.text.utf8ByteSize ≤ longestPath) :
    t.exists? here path.text = (t.get? path.names).isSome := by
  rw [exists?]
  cases he : t.get? path.names with
  | some e =>
    rw [h.stat_text hpath (hshort (by rw [he]; rfl)) he]
    rfl
  | none =>
    cases hstat : t.stat here path.text with
    | error cause => rfl
    | ok e =>
      rw [get?_of_stat_spelled hpath false hstat] at he
      cases he

theorem isDirectory_text (hpath : path.IsResolved) (here : Place)
    (hshort : (t.get? path.names).isSome → path.text.utf8ByteSize ≤ longestPath) :
    t.isDirectory here path.text = (t.get? path.names = some .directory : Bool) := by
  rw [isDirectory]
  cases he : t.get? path.names with
  | some e =>
    rw [h.stat_text hpath (hshort (by rw [he]; rfl)) he]
    cases e <;> rfl
  | none =>
    cases hstat : t.stat here path.text with
    | error cause => rfl
    | ok e =>
      rw [get?_of_stat_spelled hpath false hstat] at he
      cases he

/-- A directory is listed where a path leads to it. Where it does not, there are no names. -/
theorem list_spelled (hpath : path.IsResolved) (here : Place) (slash : Bool)
    (hshort : t.namesIn path.names ≠ [] → (path.spelled slash).utf8ByteSize ≤ longestPath) :
    t.list here (path.spelled slash) = .ok (t.namesIn path.names) ∨
      t.namesIn path.names = [] ∧ ∃ cause, t.list here (path.spelled slash) = .error cause := by
  have hdirectory : t.namesIn path.names ≠ [] → t.get? path.names = some .directory := by
    intro hne
    obtain ⟨n, hn⟩ := List.exists_mem_of_ne_nil _ hne
    exact h.directory_of_isSome (mem_namesIn.mp hn)
  rw [list]
  cases hstat : t.stat here (path.spelled slash) with
  | error cause =>
    refine .inr ⟨by_contra fun hne => ?_, cause, rfl⟩
    rw [h.stat_spelled hpath slash (hshort hne) (hdirectory hne) (.inr rfl)] at hstat
    cases hstat
  | ok e =>
    have he := get?_of_stat_spelled hpath slash hstat
    cases e with
    | file bytes =>
      refine .inr ⟨by_contra fun hne => ?_, .notDirectory, rfl⟩
      rw [hdirectory hne] at he
      cases he
    | directory =>
      refine .inl ?_
      dsimp only [bind, Except.bind]
      cases hplace : t.locate here (path.spelled slash) with
      | error cause =>
        rw [stat, hplace] at hstat
        cases hstat
      | ok place =>
        rw [locate_eq_ok hplace, placeOf_spelled hpath]
        rfl

theorem look?_text_of_some (hpath : path.IsResolved) {here : Place} {e : Entry}
    (hshort : path.text.utf8ByteSize ≤ longestPath) (he : t.get? path.names = some e) :
    t.look? here path.text = .ok (some e) := by
  rw [look?, h.stat_text hpath hshort he]
  rfl

/-- Nothing is found where nothing stands, and looking there fails if a name is too long. -/
theorem look?_text_of_none (hpath : path.IsResolved) (here : Place) {r : List String}
    (hshort : path.text.utf8ByteSize ≤ longestPath) (hq : t.get? q = some .directory)
    (hnames : path.names = q ++ r) (hnone : t.get? path.names = none) :
    (t.follow q r = .error .nameTooLong ∧ t.look? here path.text = .error .nameTooLong) ∨
      (t.follow q r ≠ .error .nameTooLong ∧ t.look? here path.text = .ok none) := by
  have hlocate : t.locate here path.text = t.follow q r := by
    rw [locate_text hpath here hshort, hnames]
    exact h.follow_append (by rw [List.nil_append, hq]; rfl) (.inr hq)
  rw [look?, stat, hlocate]
  cases hfollow : t.follow q r with
  | error cause =>
    cases cause with
    | nameTooLong => exact .inl ⟨rfl, rfl⟩
    | _ =>
      refine .inr ⟨fun hlong => ?_, rfl⟩
      cases hlong
  | ok place =>
    rw [hfollow] at hlocate
    have hplace := locate_eq_ok hlocate
    rw [← Path.spelled_false, placeOf_spelled hpath] at hplace
    refine .inr ⟨fun hlong => ?_, ?_⟩
    · cases hlong
    · dsimp only [bind, Except.bind]
      rw [hplace, hnone]
      rfl

end Sound

/-- No place of the tree has as many names. -/
def height (t : FileTree) : Nat := t.entries.foldl (fun n e => max n e.1.length) 0 + 1

theorem le_foldl_max {entries : List (Place × Entry)} (k : Nat) :
    k ≤ entries.foldl (fun n e => max n e.1.length) k ∧
      ∀ e ∈ entries, e.1.length ≤ entries.foldl (fun n e => max n e.1.length) k := by
  induction entries generalizing k with
  | nil => exact ⟨Nat.le_refl _, nofun⟩
  | cons e entries ih =>
    obtain ⟨hk, hentries⟩ := ih (max k e.1.length)
    exact ⟨(Nat.le_max_left _ _).trans hk,
      List.forall_mem_cons.mpr ⟨(Nat.le_max_right _ _).trans hk, hentries⟩⟩

theorem length_le_height (hq : (t.get? q).isSome) : q.length ≤ t.height := by
  by_cases hroot : q = []
  · rw [hroot]
    exact Nat.zero_le _
  · obtain ⟨e, he, rfl⟩ := exists_entry hq hroot
    exact Nat.le_succ_of_le ((le_foldl_max 0).2 e he)

end FileTree

/-! ### Branches -/

/-- What lies below a directory, and in what order the system lists it. -/
structure Branch where
  entry : Place → Option Entry
  names : Place → List String
  height : Nat
  entry_root : entry [] = some .directory
  nodup_names : ∀ r, (names r).Nodup
  mem_names : ∀ r n, n ∈ names r ↔ (entry (r ++ [n])).isSome
  directory_of_isSome : ∀ r n, (entry (r ++ [n])).isSome → entry r = some .directory
  isFileName : ∀ r n, (entry (r ++ [n])).isSome → IsFileName n
  length_le : ∀ r, (entry r).isSome → r.length ≤ height

namespace FileTree

/-- A path leads to a directory of a sound tree, and to everything below it. -/
structure Offers (t : FileTree) (p : Path) : Prop where
  sound : t.Sound
  resolved : p.IsResolved
  directory : t.get? p.names = some .directory
  within : ∀ r, (t.get? (p.names ++ r)).isSome →
    (p.under r).text.utf8ByteSize ≤ longestPath

/-- What lies below the directory where a path leads. -/
def Offers.branch {t : FileTree} {p : Path} (h : t.Offers p) : Branch where
  entry r := t.get? (p.names ++ r)
  names r := t.namesIn (p.names ++ r)
  height := t.height
  entry_root := by rw [List.append_nil, h.directory]
  nodup_names _ := h.sound.nodup_namesIn _
  mem_names r n := by rw [mem_namesIn, List.append_assoc]
  directory_of_isSome r n hn := h.sound.directory_of_isSome (n := n) (by rwa [List.append_assoc])
  isFileName r n hn := h.sound.isFileName hn n (by simp)
  length_le r hr := by
    have hle := length_le_height hr
    rw [List.length_append] at hle
    omega

end FileTree

end StepFlow
