import StepFlow.Proofs.Activity
import StepFlow.Proofs.Fields
import StepFlow.Proofs.Files.Expansion
import StepFlow.Files.Collect

/-!
# Files gathered once

Files are told apart by their labels: of the labels that several patterns find, each counts at its
first place, and it stands in the contents if the file could be read. A pattern that fails finds none.
So what fails takes nothing away from the rest. Only a pattern that takes more room than there is ends
the gathering, and then nothing comes of the other patterns either.

A label is the path by which a file has been found. Patterns that lead down from the same path find a
file by one label: two relative patterns that never lead up, say, or two that begin with the same
steps up. Other patterns may find a file by different labels, and then it is gathered more than once.

## Main definitions

* `Collector.matched` — the labels that a pattern finds, none if it fails
* `Collector.HasRoom` — there is room for all patterns
* `Collector.placeOf` — the place of the file of a label
* `Collector.Agree` — patterns that lead down from the same path
* `Collector.GathersOnce` — what is gathered for several patterns

## Main results

* `Collector.contents_gather`, `Collector.fault_gather` — the contents gathered, and what ends it
* `Collector.perform_collect` — what a run collects
* `Glob.leadsDown_of_mem_expandFrom` — paths found lead down if the pattern does
* `Collector.label_eq_of_placeOf_eq` — patterns that agree find a file by one label
* `Collector.gathersOnce` — each file is gathered once
-/

namespace StepFlow

namespace Collector

variable {c : Collector} {t : FileTree} {g : Gathered} {label : String}

/-! ### Contents -/

/-- The labels that a pattern finds, none if it fails. -/
def matched (c : Collector) (t : FileTree) (pattern : String) : List String :=
  (c.find t pattern).toOption.getD []

theorem matched_of_ok {pattern : String} {labels : List String}
    (h : c.find t pattern = .ok labels) : c.matched t pattern = labels :=
  congrArg (fun r => r.toOption.getD []) h

theorem matched_of_error {pattern : String} {e : Fault} (h : c.find t pattern = .error e) :
    c.matched t pattern = [] :=
  congrArg (fun r => r.toOption.getD []) h

/-- There is room for all patterns. -/
def HasRoom (c : Collector) (t : FileTree) (patterns : List String) : Prop :=
  ∀ pattern ∈ patterns, c.find t pattern ≠ .error .tooDeep

instance (patterns : List String) : Decidable (c.HasRoom t patterns) :=
  inferInstanceAs (Decidable (∀ pattern ∈ patterns, c.find t pattern ≠ .error .tooDeep))

/-- The patterns before the first one that takes too much room. -/
def followed (c : Collector) (t : FileTree) (patterns : List String) : List String :=
  patterns.takeWhile fun pattern => c.find t pattern ≠ .error .tooDeep

theorem followed_of_hasRoom {patterns : List String} (h : c.HasRoom t patterns) :
    c.followed t patterns = patterns :=
  List.takeWhile_eq_self_iff.mpr fun pattern hpattern => decide_eq_true (h pattern hpattern)

theorem followed_congr {c' : Collector} {t' : FileTree} {patterns : List String}
    (h : ∀ pattern ∈ patterns,
      c.find t pattern = .error .tooDeep ↔ c'.find t' pattern = .error .tooDeep) :
    c.followed t patterns = c'.followed t' patterns := by
  induction patterns with
  | nil => rfl
  | cons pattern patterns ih =>
    obtain ⟨hpattern, hpatterns⟩ := List.forall_mem_cons.mp h
    have hrest := ih hpatterns
    simp only [followed] at hrest
    simp only [followed, List.takeWhile_cons, ne_eq, hpattern, hrest]

theorem hasRoom_cons_iff {pattern : String} {patterns : List String} :
    c.HasRoom t (pattern :: patterns) ↔
      c.find t pattern ≠ .error .tooDeep ∧ c.HasRoom t patterns :=
  List.forall_mem_cons

/-- The label with the text of its file, if this can be read. -/
def fieldAt (c : Collector) (t : FileTree) (label : String) : Option (String × String) :=
  (c.textAt t label).toOption.map (label, ·)

theorem fieldAt_of_ok {text : String} (h : c.textAt t label = .ok text) :
    c.fieldAt t label = some (label, text) :=
  congrArg (fun r => r.toOption.map (label, ·)) h

theorem fieldAt_of_error {e : Fault} (h : c.textAt t label = .error e) :
    c.fieldAt t label = none :=
  congrArg (fun r => r.toOption.map (label, ·)) h

theorem fieldAt_eq_some_iff {field : String × String} :
    c.fieldAt t label = some field ↔ field.1 = label ∧ c.textAt t label = .ok field.2 := by
  cases htext : c.textAt t label with
  | error e =>
    rw [fieldAt_of_error htext]
    exact iff_of_false nofun (by rintro ⟨-, h⟩; cases h)
  | ok text =>
    rw [fieldAt_of_ok htext, Option.some.injEq, Except.ok.injEq]
    constructor
    · rintro rfl
      exact ⟨rfl, rfl⟩
    · rintro ⟨h, h'⟩
      exact Prod.ext h.symm h'

/-! ### Faults of patterns -/

/-- What costs a pattern its files, or ends the gathering. -/
def IsPatternFault (e : Fault) : Prop := isForeseen e = true ∨ e = .tooDeep

theorem names_fails (here : Place) (directory : String) (directoriesOnly : Bool) :
    FailsOnly IsPatternFault (Glob.names t here directory directoriesOnly) := by
  unfold Glob.names
  split
  · exact .error (.inl rfl)
  · split
    · exact .ok _
    · exact .ok _

theorem below_fails (here : Place) (directoriesOnly : Bool) (room : Nat) (directory : String) :
    FailsOnly IsPatternFault (Glob.below t here directoriesOnly room directory) := by
  induction room generalizing directory with
  | zero => exact .error (.inr rfl)
  | succ room ih =>
    exact (names_fails here directory directoriesOnly).bind fun found =>
      (FailsOnly.mapM (fun n => (ih _).bind fun deeper => .ok _) _).bind fun groups => .ok _

theorem inDirectory_fails (here : Place) (room : Nat) (base : String) (directoriesOnly : Bool)
    (directory : String) :
    FailsOnly IsPatternFault (Glob.inDirectory t here room base directoriesOnly directory) := by
  unfold Glob.inDirectory
  split
  · exact .ok _
  · split
    · exact (below_fails here directoriesOnly room directory).bind fun found => .ok _
    · exact (names_fails here directory directoriesOnly).bind fun found => .ok _

theorem expandFrom_fails (here : Place) (room : Nat) (pattern : String) (directoriesOnly : Bool) :
    FailsOnly IsPatternFault (Glob.expandFrom t here room pattern directoriesOnly) := by
  induction room generalizing pattern directoriesOnly with
  | zero => exact .error (.inr rfl)
  | succ room ih =>
    have hgroups (base : String) (ds : List String) := FailsOnly.mapM (fun d =>
      (inDirectory_fails (t := t) here (room + 1) base directoriesOnly d).bind fun found =>
        .ok (found.map (Glob.joined d))) ds
    rw [Glob.expandFrom]
    generalize Glob.splitLast pattern = parts
    obtain ⟨directory, base⟩ := parts
    dsimp only
    split
    · split
      · exact .ok _
      · exact .ok _
    · split
      · exact inDirectory_fails here (room + 1) base directoriesOnly ""
      · split
        · exact (ih directory true).bind fun ds => (hgroups base ds).bind fun groups => .ok _
        · exact (hgroups base [directory]).bind fun groups => .ok _

theorem isFile_fails (here : Place) (path : String) : FailsOnly IsPatternFault (isFile t here path) := by
  unfold isFile
  split
  · exact .ok true
  · exact .ok false
  · exact .error (.inl rfl)

/-- A pattern that fails costs its files only, or it takes more room than there is. -/
theorem find_fails (pattern : String) : FailsOnly IsPatternFault (c.find t pattern) := by
  rw [find, findExcept, Glob.expand]
  refine FailsOnly.bind ?_ fun found => ?_
  · refine (expandFrom_fails _ nestingLimit _ false).bind fun found => ?_
    split
    · exact .ok _
    · exact .ok _
  · have hfiles (p : Path) := isFile_fails (t := t) c.workspace.names p.text
    exact (failsOnly_filterM hfiles (found.map Path.ofText)).bind fun files => .ok _

/-- What has been gathered is what has been seen, as far as it can be read. -/
structure Holds (c : Collector) (t : FileTree) (g : Gathered) (seen : List String) : Prop where
  contents : g.contents = seen.eraseDups.filterMap (c.fieldAt t)
  unbroken : g.fault = none

theorem isSome_get?_iff {fields : Fields String} :
    (fields.get? label).isSome ↔ ∃ f ∈ fields, f.1 = label := by
  rw [Fields.get?, Option.isSome_map, List.find?_isSome]
  simp

theorem Holds.isSome_iff {seen : List String} (h : c.Holds t g seen) :
    (g.contents.get? label).isSome ↔ label ∈ seen ∧ (c.fieldAt t label).isSome := by
  rw [isSome_get?_iff, h.contents]
  constructor
  · rintro ⟨f, hf, rfl⟩
    obtain ⟨l, hl, hfield⟩ := List.mem_filterMap.mp hf
    rw [(fieldAt_eq_some_iff.mp hfield).1, hfield]
    exact ⟨List.mem_eraseDups.mp hl, rfl⟩
  · rintro ⟨hl, hfield⟩
    obtain ⟨f, hf⟩ := Option.isSome_iff_exists.mp hfield
    exact ⟨f, List.mem_filterMap.mpr ⟨label, List.mem_eraseDups.mpr hl, hf⟩,
      (fieldAt_eq_some_iff.mp hf).1⟩

theorem fault_gatherFile (label : String) : (c.gatherFile t g label).fault = g.fault := by
  unfold gatherFile
  split
  · rfl
  · cases c.textAt t label <;> rfl

/-- One file more. -/
theorem holds_gatherFile {seen : List String} (h : c.Holds t g seen) (label : String) :
    c.Holds t (c.gatherFile t g label) (seen ++ [label]) := by
  refine ⟨?_, (fault_gatherFile label).trans h.unbroken⟩
  have hsome : (g.contents.get? label).isSome ↔ label ∈ seen ∧ (c.fieldAt t label).isSome :=
    h.isSome_iff
  rw [eraseDups_append_singleton, List.filterMap_append, ← h.contents, gatherFile]
  by_cases hthere : (g.contents.get? label).isSome
  · rw [if_pos hthere, if_pos (hsome.mp hthere).1]
    exact (List.append_nil _).symm
  · rw [if_neg hthere]
    cases htext : c.textAt t label with
    | error e =>
      have hnone := fieldAt_of_error htext
      have hrest : (if label ∈ seen then [] else [label]).filterMap (c.fieldAt t) = [] := by
        split
        · rfl
        · rw [List.filterMap_cons_none hnone, List.filterMap_nil]
      rw [hrest]
      exact (List.append_nil _).symm
    | ok text =>
      have hfield := fieldAt_of_ok htext
      have hnew : label ∉ seen := fun hmem => hthere (hsome.mpr ⟨hmem, by rw [hfield]; rfl⟩)
      rw [if_neg hnew, List.filterMap_cons_some hfield]
      rfl

theorem holds_gatherFiles {seen : List String} (h : c.Holds t g seen) (labels : List String) :
    c.Holds t (labels.foldl (c.gatherFile t) g) (seen ++ labels) := by
  induction labels generalizing g seen with
  | nil => rwa [List.append_nil]
  | cons label labels ih =>
    rw [List.foldl_cons, ← List.singleton_append, ← List.append_assoc]
    exact ih (holds_gatherFile h label)

/-- The files of one pattern more. -/
theorem holds_gatherPattern {seen : List String} (h : c.Holds t g seen) {pattern : String}
    (hroom : c.find t pattern ≠ .error .tooDeep) :
    c.Holds t (c.gatherPattern t g pattern) (seen ++ c.matched t pattern) := by
  rw [gatherPattern, h.unbroken, if_neg (by simp)]
  cases hfind : c.find t pattern with
  | ok labels =>
    rw [matched_of_ok hfind]
    exact holds_gatherFiles h labels
  | error e =>
    have hforeseen : isForeseen e = true := by
      refine (find_fails pattern e hfind).resolve_right ?_
      rintro rfl
      exact hroom hfind
    rw [matched_of_error hfind, List.append_nil]
    dsimp only
    rw [if_pos hforeseen]
    exact ⟨h.contents, rfl⟩

/-- A pattern that takes too much room ends the gathering. -/
theorem gatherPattern_of_tooDeep (h : g.fault = none) {pattern : String}
    (hdeep : c.find t pattern = .error .tooDeep) :
    c.gatherPattern t g pattern = { g with fault := some .tooDeep } := by
  rw [gatherPattern, h, hdeep]
  rfl

theorem gatherPatterns_of_fault (h : g.fault.isSome) (patterns : List String) :
    patterns.foldl (c.gatherPattern t) g = g := by
  induction patterns with
  | nil => rfl
  | cons pattern patterns ih => rw [List.foldl_cons, gatherPattern, if_pos h, ih]

theorem holds_gatherPatterns {seen : List String} (h : c.Holds t g seen) (patterns : List String) :
    (patterns.foldl (c.gatherPattern t) g).contents =
        (seen ++ (c.followed t patterns).flatMap (c.matched t)).eraseDups.filterMap (c.fieldAt t) ∧
      (patterns.foldl (c.gatherPattern t) g).fault =
        if c.HasRoom t patterns then none else some .tooDeep := by
  induction patterns generalizing g seen with
  | nil =>
    have hroom : c.HasRoom t [] := List.forall_mem_nil _
    rw [if_pos hroom, followed, List.takeWhile_nil, List.flatMap_nil,
      List.append_nil]
    exact ⟨h.contents, h.unbroken⟩
  | cons pattern patterns ih =>
    rw [List.foldl_cons, followed, List.takeWhile_cons]
    by_cases hdeep : c.find t pattern = .error .tooDeep
    · rw [gatherPattern_of_tooDeep h.unbroken hdeep, gatherPatterns_of_fault rfl,
        if_neg (by simp [hdeep]), if_neg fun hroom => (hasRoom_cons_iff.mp hroom).1 hdeep,
        List.flatMap_nil, List.append_nil]
      exact ⟨h.contents, rfl⟩
    · obtain ⟨hcontents, hfault⟩ := ih (holds_gatherPattern h hdeep)
      rw [if_pos (decide_eq_true hdeep), List.flatMap_cons, ← List.append_assoc]
      refine ⟨hcontents, hfault.trans (if_congr ?_ rfl rfl)⟩
      rw [hasRoom_cons_iff, and_iff_right hdeep]

theorem holds_nothing : c.Holds t {} [] := ⟨rfl, rfl⟩

/-- **The contents gathered** are the labels found, each at its first place, as far as their files
can be read. -/
theorem contents_gather (c : Collector) (t : FileTree) (patterns : List String) :
    (c.gather t patterns).contents =
      ((c.followed t patterns).flatMap (c.matched t)).eraseDups.filterMap (c.fieldAt t) :=
  (holds_gatherPatterns holds_nothing patterns).1

/-- The gathering ends early if there is no room for a pattern. -/
theorem fault_gather (c : Collector) (t : FileTree) (patterns : List String) :
    (c.gather t patterns).fault = if c.HasRoom t patterns then none else some .tooDeep :=
  (holds_gatherPatterns holds_nothing patterns).2

end Collector

/-! ### Paths found -/

namespace Glob

/-- A text that has a wildcard has a name with one. -/
theorem exists_hasMagic_names {s : String} (h : hasMagic s = true) :
    ∃ n ∈ (Path.ofText s).names, hasMagic n = true := by
  obtain ⟨c, hc, hmagic⟩ := hasMagic_iff.mp h
  have hslash : c ≠ '/' := by
    rintro rfl
    exact absurd hmagic (by decide)
  have hdot : c ≠ '.' := by
    rintro rfl
    exact absurd hmagic (by decide)
  obtain ⟨n, hn, hmem⟩ := exists_mem_splitNames hc hslash
  refine ⟨String.ofList n, ?_, hasMagic_iff.mpr ⟨c, by rwa [String.toList_ofList], hmagic⟩⟩
  rw [Path.names_ofText]
  refine List.mem_map_of_mem (List.mem_filter.mpr ⟨hn, ?_⟩)
  have hempty : n ≠ [] := List.ne_nil_of_mem hmem
  have hsingle : n ≠ ['.'] := by
    rintro rfl
    exact hdot (List.mem_singleton.mp hmem)
  simp [hempty, hsingle]

/-- The text of an absolute path that leads down from another one. -/
structure LeadsDown (base : Path) (s : String) : Prop where
  absolute : s.toList.head? = some '/'
  below : ∃ r, Path.ofText s = base.under r ∧ ".." ∉ r

/-- A text that leads down only when it is put behind a directory's. -/
structure IsTail (s : String) : Prop where
  relative : s.toList.head? ≠ some '/'
  down : ".." ∉ (Path.ofText s).names

variable {t : FileTree} {here : Place} {directoriesOnly : Bool} {base : Path} {d n m s : String}

theorem LeadsDown.ne_empty (hs : LeadsDown base s) : s ≠ "" := by
  rintro rfl
  cases hs.absolute

theorem LeadsDown.joined (hd : LeadsDown base d) (hn : IsTail n) :
    LeadsDown base (joined d n) := by
  obtain ⟨habsolute, r, hpath, hr⟩ := hd
  refine ⟨head?_joined hn.relative habsolute, r ++ (Path.ofText n).names, ?_, ?_⟩
  · rw [Path.ofText_joined habsolute hn.relative, hpath, Path.under, Path.under, List.append_assoc]
  · rw [List.mem_append, not_or]
    exact ⟨hr, hn.down⟩

/-- A pattern with wildcards below its base is taken apart there. -/
theorem LeadsDown.splitLast (hs : LeadsDown base s) (hplain : ∀ n ∈ base.names, hasMagic n = false)
    (hmagic : hasMagic s = true) :
    LeadsDown base (splitLast s).1 ∧ IsTail (splitLast s).2 := by
  obtain ⟨habsolute, r, hpath, hr⟩ := hs
  obtain ⟨hhead, hslash, htext⟩ := Path.ofText_splitLast habsolute
  generalize Glob.splitLast s = parts at hhead hslash htext ⊢
  obtain ⟨directory, last⟩ := parts
  dsimp only at hhead hslash htext ⊢
  have hrelative : last.toList.head? ≠ some '/' :=
    fun hstart => hslash (List.mem_of_mem_head? hstart)
  rw [hpath, Path.under] at htext
  obtain ⟨hroot, hnames⟩ := Path.mk.inj htext
  rcases Path.names_ofText_of_not_mem hslash with hlast | hlast
  · rw [hlast, List.append_nil] at hnames
    refine ⟨⟨hhead, r, Path.ext hroot.symm hnames.symm, hr⟩, hrelative, ?_⟩
    rw [hlast]
    exact List.not_mem_nil
  · rw [hlast] at hnames
    rcases List.eq_nil_or_concat r with rfl | ⟨r, n, rfl⟩
    · -- All the names of the pattern are in the base.
      obtain ⟨n, hn, hwild⟩ := exists_hasMagic_names hmagic
      rw [hpath, Path.under, List.append_nil] at hn
      rw [hplain n hn] at hwild
      cases hwild
    · rw [List.concat_eq_append, ← List.append_assoc] at hnames
      obtain ⟨hdirectory, hn⟩ := List.append_inj' hnames rfl
      obtain rfl := List.singleton_inj.mp hn
      rw [List.concat_eq_append, List.mem_append, not_or] at hr
      refine ⟨⟨hhead, r, Path.ext hroot.symm hdirectory.symm, hr.1⟩, hrelative, ?_⟩
      rw [hlast]
      exact hr.2

theorem isTail_empty : IsTail "" := ⟨by decide, List.not_mem_nil⟩

theorem isTail_name (hn : Path.IsName n) : IsTail n where
  relative := hn.head?_ne
  down := by
    rw [Path.names_ofText_name hn.toIsPart, List.mem_singleton]
    exact Ne.symm hn.ne_dots

theorem IsTail.joined (hn : Path.IsName n) (hm : IsTail m) : IsTail (Glob.joined n m) where
  relative := head?_joined_name hn.toIsPart hm.relative
  down := by
    rw [joined_name hn.toIsPart hm.relative, Path.names_ofText_append_slash, List.mem_append, not_or]
    exact ⟨(isTail_name hn).down, hm.down⟩

theorem isName_of_mem_names (ht : t.Sound) {ns : List String}
    (h : names t here d directoriesOnly = .ok ns) : ∀ n ∈ ns, Path.IsName n := by
  intro n hn
  unfold names at h
  split at h
  · cases h
  · split at h
    · cases h
      cases hn
    · rename_i listed hlist
      cases h
      obtain ⟨q, rfl⟩ := FileTree.exists_of_list_ok hlist
      have hsome := FileTree.mem_namesIn.mp (List.mem_filter.mp hn).1
      exact (ht.isFileName hsome n (by simp)).toIsName

theorem isTail_of_mem_below (ht : t.Sound) {room : Nat} {xs : List String}
    (h : below t here directoriesOnly room d = .ok xs) : ∀ x ∈ xs, IsTail x := by
  induction room generalizing d xs with
  | zero => cases h
  | succ room ih =>
    rw [below] at h
    obtain ⟨found, hfound, h⟩ := exists_of_bind_ok h
    obtain ⟨groups, hgroups, h⟩ := exists_of_bind_ok h
    cases h
    intro x hx
    obtain ⟨group, hgroup, hx⟩ := List.mem_flatten.mp hx
    obtain ⟨n, hn, hgroup⟩ := exists_of_forall₂ (forall₂_of_mapM_ok hgroups) hgroup
    obtain ⟨deeper, hdeeper, hgroup⟩ := exists_of_bind_ok hgroup
    cases hgroup
    have hname := isName_of_mem_names ht hfound n (List.mem_filter.mp hn).1
    rcases List.mem_cons.mp hx with rfl | hx
    · exact isTail_name hname
    · obtain ⟨y, hy, rfl⟩ := List.mem_map.mp hx
      exact (ih hdeeper y hy).joined hname

/-- What one name of a pattern matches in a directory leads down if the name does. -/
theorem isTail_of_mem_inDirectory (ht : t.Sound) (hn : IsTail n) {room : Nat} {xs : List String}
    (h : inDirectory t here room n directoriesOnly d = .ok xs) : ∀ x ∈ xs, IsTail x := by
  intro x hx
  unfold inDirectory at h
  split at h
  · cases h
    unfold plain at hx
    split at hx
    · split at hx
      · cases List.mem_singleton.mp hx
        exact isTail_empty
      · cases hx
    · split at hx
      · cases List.mem_singleton.mp hx
        exact hn
      · cases hx
  · split at h
    · obtain ⟨found, hfound, h⟩ := exists_of_bind_ok h
      cases h
      rcases List.mem_cons.mp hx with rfl | hx
      · exact isTail_empty
      · exact isTail_of_mem_below ht hfound x hx
    · obtain ⟨found, hfound, h⟩ := exists_of_bind_ok h
      cases h
      exact isTail_name (isName_of_mem_names ht hfound x (List.mem_filter.mp hx).1)

theorem leadsDown_of_mem_groups (ht : t.Sound) (hn : IsTail n) {ds : List String}
    (hds : ∀ d ∈ ds, LeadsDown base d) {room : Nat} {groups : List (List String)}
    (h : ds.mapM (pathsIn t here room n directoriesOnly) = .ok groups) :
    ∀ f ∈ groups.flatten, LeadsDown base f := by
  intro f hf
  obtain ⟨group, hgroup, hf⟩ := List.mem_flatten.mp hf
  obtain ⟨d, hd, hgroup⟩ := exists_of_forall₂ (forall₂_of_mapM_ok h) hgroup
  obtain ⟨xs, hxs, hgroup⟩ := exists_of_bind_ok hgroup
  cases hgroup
  obtain ⟨x, hx, rfl⟩ := List.mem_map.mp hf
  exact (hds d hd).joined (isTail_of_mem_inDirectory ht hn hxs x hx)

/-- A pattern without wildcards finds itself or nothing. -/
theorem eq_of_mem_expandFrom {room : Nat} {pattern : String} {found : List String}
    (hplain : hasMagic pattern = false)
    (h : expandFrom t here (room + 1) pattern directoriesOnly = .ok found) :
    ∀ f ∈ found, f = pattern := by
  intro f hf
  rw [expandFrom] at h
  generalize splitLast pattern = parts at h
  obtain ⟨directory, last⟩ := parts
  dsimp only at h
  rw [if_pos (by simp [hplain])] at h
  split at h
  · cases h
    split at hf
    · exact List.mem_singleton.mp hf
    · cases hf
  · cases h
    split at hf
    · exact List.mem_singleton.mp hf
    · cases hf

/-- **Paths found lead down if the pattern does**, and from the same base. -/
theorem leadsDown_of_mem_expandFrom (ht : t.Sound) (hplain : ∀ n ∈ base.names, hasMagic n = false)
    {room : Nat} {pattern : String} {found : List String} (hpattern : LeadsDown base pattern)
    (h : expandFrom t here room pattern directoriesOnly = .ok found) :
    ∀ f ∈ found, LeadsDown base f := by
  induction room generalizing pattern directoriesOnly found with
  | zero => cases h
  | succ room ih =>
    by_cases hmagic : hasMagic pattern = true
    · obtain ⟨hdirectory, hlast⟩ := hpattern.splitLast hplain hmagic
      generalize hsplit : splitLast pattern = parts at hdirectory hlast
      obtain ⟨directory, last⟩ := parts
      rw [expandFrom_of_hasMagic room hmagic hsplit hdirectory.ne_empty] at h
      obtain ⟨ds, hds, h⟩ := exists_of_bind_ok h
      obtain ⟨groups, hgroups, h⟩ := exists_of_bind_ok h
      cases h
      refine leadsDown_of_mem_groups ht hlast ?_ hgroups
      split at hds
      · exact ih hdirectory hds
      · cases hds
        exact List.forall_mem_singleton.mpr hdirectory
    · intro f hf
      rwa [eq_of_mem_expandFrom (by simpa using hmagic) h f hf]

end Glob

namespace Collector

variable {c : Collector} {t : FileTree} {pattern label : String} {base q : Path}

/-! ### Labels and places -/

/-- The path by which the file of a label is read. -/
def pathOf (c : Collector) (label : String) : Path := c.workspace.join (Path.ofText label)

/-- The place of the file of a label. -/
def placeOf (c : Collector) (label : String) : Place :=
  FileTree.placeOf c.workspace.names (c.pathOf label).text

/-- Two patterns that lead down from a common path, which has no wildcards if it leads up. -/
def Agree (c : Collector) (pattern pattern' : String) : Prop :=
  ∃ (base : Path) (r r' : List String), Path.ofText pattern = base.under r ∧ ".." ∉ r ∧
    Path.ofText pattern' = base.under r' ∧ ".." ∉ r' ∧
    (".." ∈ base.names → ∀ n ∈ (c.workspace.join base).names, Glob.hasMagic n = false)

/-- Patterns with the same root agree if they never lead up. -/
theorem agree_of_root_eq {pattern' : String}
    (hroot : (Path.ofText pattern).root = (Path.ofText pattern').root)
    (hdown : ".." ∉ (Path.ofText pattern).names) (hdown' : ".." ∉ (Path.ofText pattern').names) :
    c.Agree pattern pattern' :=
  ⟨⟨(Path.ofText pattern).root, []⟩, (Path.ofText pattern).names, (Path.ofText pattern').names,
    rfl, hdown, Path.ext hroot.symm rfl, hdown', fun hup => absurd hup List.not_mem_nil⟩

theorem head?_fullPattern_and (pattern : String) (hw : c.workspace.IsResolved) :
    (c.fullPattern pattern).toList.head? = some '/' ∧
      Path.ofText (c.fullPattern pattern) = c.workspace.join (Path.ofText pattern) := by
  rw [fullPattern, Path.join]
  split
  · rename_i habsolute
    refine ⟨?_, rfl⟩
    rcases Path.root_ofText_cases pattern with ⟨hhead, -⟩ | ⟨-, hroot⟩
    · exact hhead
    · simp [Path.isAbsolute, hroot] at habsolute
  · have hnormal : Path.IsNormal
        ⟨c.workspace.root, c.workspace.names ++ (Path.ofText pattern).names⟩ :=
      ⟨hw.root, List.forall_mem_append.mpr ⟨hw.normal.parts, fun n => Path.isPart_of_mem_ofText⟩⟩
    exact ⟨Path.head?_text hw.root _, Path.ofText_text hnormal⟩

theorem join_under (w base : Path) (r : List String) :
    w.join (base.under r) = (w.join base).under r := by
  have hsame : (base.under r).isAbsolute = base.isAbsolute := rfl
  rw [Path.join, Path.join, hsame]
  split
  · rfl
  · exact Path.ext rfl (List.append_assoc _ _ _).symm

/-- Patterns that agree, taken from the workspace, lead down from a common path without wildcards. -/
theorem Agree.exists_leadsDown {pattern' : String} (h : c.Agree pattern pattern')
    (hw : c.workspace.IsResolved) : ∃ base : Path, (∀ n ∈ base.names, Glob.hasMagic n = false) ∧
      Glob.LeadsDown base (c.fullPattern pattern) ∧ Glob.LeadsDown base (c.fullPattern pattern') ∧
      (Path.ofText pattern).isAbsolute = (Path.ofText pattern').isAbsolute := by
  obtain ⟨base, r, r', hr, hdown, hr', hdown', hplain⟩ := h
  obtain ⟨hhead, htext⟩ := head?_fullPattern_and pattern hw
  obtain ⟨hhead', htext'⟩ := head?_fullPattern_and pattern' hw
  rw [hr, join_under] at htext
  rw [hr', join_under] at htext'
  have hsame : (Path.ofText pattern).isAbsolute = (Path.ofText pattern').isAbsolute := by
    rw [hr, hr']
    rfl
  by_cases hup : ".." ∈ base.names
  · exact ⟨_, hplain hup, ⟨hhead, r, htext, hdown⟩, ⟨hhead', r', htext', hdown'⟩, hsame⟩
  · -- Then they lead down from the root already.
    have hjoin : ".." ∉ (c.workspace.join base).names := by
      rw [Path.join]
      split
      · exact hup
      · rw [List.mem_append, not_or]
        exact ⟨fun hdots => (hw.names _ hdots).ne_dots rfl, hup⟩
    refine ⟨⟨(c.workspace.join base).root, []⟩, List.forall_mem_nil _, ⟨hhead, _, htext, ?_⟩,
      ⟨hhead', _, htext', ?_⟩, hsame⟩
    · exact fun hdots => (List.mem_append.mp hdots).elim hjoin hdown
    · exact fun hdots => (List.mem_append.mp hdots).elim hjoin hdown'

/-- A label found comes from a path that leads down. -/
theorem exists_path_of_mem_matched (ht : t.Sound) (hplain : ∀ n ∈ base.names, Glob.hasMagic n = false)
    (hpattern : Glob.LeadsDown base (c.fullPattern pattern)) (h : label ∈ c.matched t pattern) :
    ∃ r, (base.under r).IsNormal ∧ ".." ∉ r ∧
      label = (c.labelOf pattern (base.under r)).text := by
  cases hfind : c.find t pattern with
  | error e =>
    rw [matched_of_error hfind] at h
    cases h
  | ok labels =>
    rw [matched_of_ok hfind] at h
    rw [find, findExcept] at hfind
    obtain ⟨found, hfound, hfind⟩ := exists_of_bind_ok hfind
    obtain ⟨files, hfiles, hfind⟩ := exists_of_bind_ok hfind
    cases hfind
    rw [sortedTexts, List.mem_mergeSort] at h
    obtain ⟨l, hl, rfl⟩ := List.mem_map.mp h
    obtain ⟨q, hq, rfl⟩ := List.mem_map.mp (List.mem_filter.mp hl).1
    obtain ⟨f, hf, rfl⟩ := List.mem_map.mp (filterM_subset hfiles hq)
    have hleads : Glob.LeadsDown base f := by
      rw [Glob.expand] at hfound
      obtain ⟨all, hall, hfound⟩ := exists_of_bind_ok hfound
      have hsub : f ∈ all := by
        split at hfound
        · cases hfound
          exact List.mem_of_mem_drop hf
        · cases hfound
          exact hf
      exact Glob.leadsDown_of_mem_expandFrom ht hplain hpattern hall f hsub
    obtain ⟨habsolute, r, hpath, hdown⟩ := hleads
    refine ⟨r, ?_, hdown, by rw [hpath]⟩
    rw [← hpath]
    exact ⟨((Path.root_ofText_cases f).resolve_right fun h => h.1 habsolute).2,
      fun n => Path.isPart_of_mem_ofText⟩

/-- A label tells the path that it comes from. -/
theorem pathOf_labelOf (hq : q.IsNormal) : c.pathOf (c.labelOf pattern q).text = q := by
  have habsolute : q.isAbsolute = true := by
    rcases hq.root with hr | hr <;> simp [Path.isAbsolute, hr]
  have hwhole : c.pathOf q.text = q := by
    rw [pathOf, Path.ofText_text hq, Path.join, if_pos habsolute]
  rw [labelOf]
  split
  · exact hwhole
  · cases hrest : q.relativeTo? c.workspace with
    | none => exact hwhole
    | some rest =>
      rw [Path.relativeTo?] at hrest
      split at hrest
      · rename_i hroot
        obtain ⟨r, hr, rfl⟩ := Option.map_eq_some_iff.mp hrest
        have hnames := List.isPrefixOf?_eq_some_iff_append_eq.mp hr
        have hparts : ∀ n ∈ r, Path.IsPart n := fun n hn =>
          hq.parts n (by rw [← hnames]; exact List.mem_append_right _ hn)
        rw [Option.getD_some, pathOf, (Path.ofText_relative hparts).1, Path.join,
          if_neg (by simp [Path.isAbsolute])]
        exact Path.ext hroot.symm hnames
      · cases hrest

/-- Where the file lies whose label comes from a path that leads down. -/
theorem placeOf_labelOf {r : List String} (hq : (base.under r).IsNormal) (hr : ".." ∉ r) :
    c.placeOf (c.labelOf pattern (base.under r)).text = FileTree.walk [] base.names ++ r := by
  have hnames : ∀ n ∈ r, Path.IsName n := fun n hn =>
    ⟨hq.parts n (List.mem_append_right _ hn), by rintro rfl; exact hr hn⟩
  rw [placeOf, pathOf_labelOf hq, FileTree.placeOf_eq_walk (Path.head?_text hq.root _),
    Path.ofText_text hq, Path.under, FileTree.walk_append, FileTree.walk_names hnames]

/-- **Patterns that agree find a file by one label.** -/
theorem label_eq_of_placeOf_eq {pattern' label' : String} (ht : t.Sound)
    (hw : c.workspace.IsResolved) (hagree : c.Agree pattern pattern')
    (h : label ∈ c.matched t pattern) (h' : label' ∈ c.matched t pattern')
    (hplace : c.placeOf label = c.placeOf label') : label = label' := by
  obtain ⟨base, hplain, hpattern, hpattern', hsame⟩ := hagree.exists_leadsDown hw
  obtain ⟨r, hr, hdown, rfl⟩ := exists_path_of_mem_matched ht hplain hpattern h
  obtain ⟨r', hr', hdown', rfl⟩ := exists_path_of_mem_matched ht hplain hpattern' h'
  rw [placeOf_labelOf hr hdown, placeOf_labelOf hr' hdown'] at hplace
  rw [List.append_cancel_left hplace, labelOf, labelOf, hsame]

/-! ### Gathering -/

/-- **What a run collects** is what has been gathered, if there is room for all patterns. Nothing but
lines of the log comes of it. -/
theorem perform_collect (c : Collector) (patterns : List String) (out : Surroundings) (w : World) :
    ∃ w', (c.collect patterns).perform out w =
        (if c.HasRoom w.files patterns then .ok (c.gather w.files patterns).contents
          else .error .tooDeep, w') ∧
      w.Logged w' := by
  obtain ⟨w', hwarn, hlogged⟩ := Act.logged_forM (f := Act.warn) (Act.logged_log .warning)
    (c.gather w.files patterns).warnings out w
  refine ⟨w', ?_, hlogged⟩
  rw [collect, Act.perform_bind_of_ok (Act.perform_get out w), Act.perform_bind_of_ok hwarn,
    c.fault_gather]
  by_cases hroom : c.HasRoom w.files patterns
  · rw [if_pos hroom, if_pos hroom]
    rfl
  · rw [if_neg hroom, if_neg hroom]
    rfl

/-- The text of a label is that of the file at its place. -/
theorem exists_file_of_textAt {text : String} (h : c.textAt t label = .ok text) :
    ∃ bytes cs, t.get? (c.placeOf label) = some (.file bytes) ∧
      Text.Utf8.decode? bytes = some cs ∧ text = String.ofList (Text.normalizeNewlines cs) := by
  unfold textAt at h
  dsimp only at h
  split at h
  · cases h
  · split at h
    · cases h
    · rename_i bytes hread
      split at h
      · rename_i cs hdecode
        cases h
        exact ⟨bytes, cs, FileTree.get?_of_read_eq_ok hread, hdecode, rfl⟩
      · cases h

/-- What is gathered for several patterns: the files that can be read, each whole and once. -/
structure GathersOnce (c : Collector) (t : FileTree) (patterns : List String) : Prop where
  /-- It is what a run collects. -/
  collected : ∀ (out : Surroundings) (w : World), w.files = t →
    ∃ w', (c.collect patterns).perform out w = (.ok (c.gather t patterns).contents, w')
  /-- The labels found stand in the order of their first matches, those that can be read. -/
  inOrder : (c.gather t patterns).contents =
    (patterns.flatMap (c.matched t)).eraseDups.filterMap (c.fieldAt t)
  distinct : ((c.gather t patterns).contents.map (·.1)).Nodup
  /-- Each label that a pattern finds is there if its file can be read. -/
  complete : ∀ pattern ∈ patterns, ∀ labels, c.find t pattern = .ok labels → ∀ label ∈ labels,
    ∀ text, c.textAt t label = .ok text → (label, text) ∈ (c.gather t patterns).contents
  /-- With each label stands the full text of its file. -/
  whole : ∀ field ∈ (c.gather t patterns).contents, ∃ bytes cs,
    t.get? (c.placeOf field.1) = some (.file bytes) ∧ Text.Utf8.decode? bytes = some cs ∧
      field.2 = String.ofList (Text.normalizeNewlines cs)
  /-- A pattern that fails might as well not be there. -/
  unspoiled : ∀ before pattern after e, patterns = before ++ pattern :: after →
    c.find t pattern = .error e →
    (c.gather t patterns).contents = (c.gather t (before ++ after)).contents
  /-- Files that cannot be read might as well not have been found. -/
  unhindered : ∀ keep : String → Bool,
    (∀ label, keep label = false → ∃ e, c.textAt t label = .error e) →
    (c.gather t patterns).contents =
      ((patterns.flatMap (c.matched t)).filter keep).eraseDups.filterMap (c.fieldAt t)
  /-- Patterns that agree do not bring the same file under two labels. -/
  once : ∀ pattern ∈ patterns, ∀ pattern' ∈ patterns, c.Agree pattern pattern' →
    ∀ field ∈ (c.gather t patterns).contents, ∀ field' ∈ (c.gather t patterns).contents,
    field.1 ∈ c.matched t pattern → field'.1 ∈ c.matched t pattern' →
    c.placeOf field.1 = c.placeOf field'.1 → field = field'

/-- A run that collects nothing, since there is no room for a pattern. -/
def BreaksOff (c : Collector) (t : FileTree) (patterns : List String) : Prop :=
  ∀ (out : Surroundings) (w : World), w.files = t →
    ∃ w', (c.collect patterns).perform out w = (.error .tooDeep, w')

/-- Where there is room for all patterns, none is passed over. -/
theorem contents_gather_of_hasRoom {patterns : List String} (h : c.HasRoom t patterns) :
    (c.gather t patterns).contents =
      (patterns.flatMap (c.matched t)).eraseDups.filterMap (c.fieldAt t) := by
  rw [contents_gather, followed_of_hasRoom h]

theorem mem_contents_gather_iff {patterns : List String} {field : String × String} :
    field ∈ (c.gather t patterns).contents ↔
      (∃ pattern ∈ c.followed t patterns, field.1 ∈ c.matched t pattern) ∧
        c.textAt t field.1 = .ok field.2 := by
  rw [contents_gather, List.mem_filterMap]
  constructor
  · rintro ⟨label, hlabel, hfield⟩
    obtain ⟨rfl, htext⟩ := fieldAt_eq_some_iff.mp hfield
    exact ⟨List.mem_flatMap.mp (List.mem_eraseDups.mp hlabel), htext⟩
  · rintro ⟨hmatched, htext⟩
    exact ⟨field.1, List.mem_eraseDups.mpr (List.mem_flatMap.mpr hmatched),
      fieldAt_eq_some_iff.mpr ⟨rfl, htext⟩⟩

theorem nodup_labels_gather (patterns : List String) :
    ((c.gather t patterns).contents.map (·.1)).Nodup := by
  have hlabel (l : List String) :
      (l.filterMap (c.fieldAt t)).map (·.1) = l.filter fun label => (c.fieldAt t label).isSome := by
    induction l with
    | nil => rfl
    | cons label l ih =>
      cases hfield : c.fieldAt t label with
      | none => rw [List.filterMap_cons_none hfield, ih, List.filter_cons_of_neg (by simp [hfield])]
      | some field =>
        rw [List.filterMap_cons_some hfield, List.map_cons, ih,
          List.filter_cons_of_pos (by simp [hfield]), (fieldAt_eq_some_iff.mp hfield).1]
  rw [contents_gather, hlabel]
  exact (nodup_eraseDups _).filter _

/-- Each file is gathered once, if the patterns that find it agree. -/
theorem gathersOnce_of_hasRoom (ht : t.Sound) (hw : c.workspace.IsResolved) {patterns : List String}
    (hroom : c.HasRoom t patterns) : c.GathersOnce t patterns where
  collected out w hfiles := by
    subst hfiles
    obtain ⟨w', hperform, -⟩ := c.perform_collect patterns out w
    rw [if_pos hroom] at hperform
    exact ⟨w', hperform⟩
  inOrder := contents_gather_of_hasRoom hroom
  distinct := nodup_labels_gather patterns
  complete pattern hpattern labels hfind label hlabel text htext := by
    rw [mem_contents_gather_iff, followed_of_hasRoom hroom]
    exact ⟨⟨pattern, hpattern, by rwa [matched_of_ok hfind]⟩, htext⟩
  whole field hfield := exists_file_of_textAt (mem_contents_gather_iff.mp hfield).2
  unspoiled before pattern after e hpatterns hfind := by
    have hrest : c.HasRoom t (before ++ after) := fun p hp =>
      hroom p (by rw [hpatterns]; simpa using (List.mem_append.mp hp).imp_right .inr)
    rw [contents_gather_of_hasRoom hroom, contents_gather_of_hasRoom hrest, hpatterns,
      List.flatMap_append, List.flatMap_cons, matched_of_error hfind, List.nil_append,
      ← List.flatMap_append]
  unhindered keep hkeep := by
    rw [contents_gather_of_hasRoom hroom, eraseDups_filter, List.filterMap_filter]
    refine List.filterMap_congr fun label _ => ?_
    split
    · rfl
    · rename_i hdrop
      obtain ⟨e, htext⟩ := hkeep label (by simpa using hdrop)
      exact fieldAt_of_error htext
  once pattern _ pattern' _ hagree field hfield field' hfield' hmem hmem' hplace := by
    have hlabel := label_eq_of_placeOf_eq ht hw hagree hmem hmem' hplace
    have htext := (mem_contents_gather_iff.mp hfield).2
    rw [hlabel, (mem_contents_gather_iff.mp hfield').2] at htext
    exact Prod.ext hlabel (Except.ok.inj htext).symm

/-- **Each file is gathered once**, if the patterns that find it agree. Nothing is gathered just if
there is no room for a pattern. -/
theorem gathersOnce (ht : t.Sound) (hw : c.workspace.IsResolved) (patterns : List String) :
    (c.HasRoom t patterns ∧ c.GathersOnce t patterns) ∨
      (¬c.HasRoom t patterns ∧ c.BreaksOff t patterns) := by
  by_cases hroom : c.HasRoom t patterns
  · exact .inl ⟨hroom, gathersOnce_of_hasRoom ht hw hroom⟩
  · refine .inr ⟨hroom, fun out w hfiles => ?_⟩
    subst hfiles
    obtain ⟨w', hperform, -⟩ := c.perform_collect patterns out w
    rw [if_neg hroom] at hperform
    exact ⟨w', hperform⟩

/-- A directory with a single note. -/
def noteTree (name : String) : FileTree :=
  ⟨[([name], .directory), ([name, "a.txt"], .file [120])]⟩

/-- A collector that starts from there. -/
def noteCollector (name : String) : Collector := ⟨⟨"/", [name]⟩, defaultIgnored⟩

theorem sound_noteTree {name : String} (hname : IsFileName name) : (noteTree name).Sound where
  distinct := by simp [noteTree]
  ne_root := by simp [noteTree]
  names := by
    have hnote : IsFileName "a.txt" := by decide
    simp [noteTree, hname, hnote]
  parents := by simp [noteTree, FileTree.get?]

theorem isResolved_noteCollector {name : String} (hname : Path.IsName name) :
    (noteCollector name).workspace.IsResolved :=
  ⟨.inl rfl, List.forall_mem_singleton.mpr hname⟩

/-- A name and a wildcard agree, and the note that both of them match is gathered once. -/
theorem gathersOnce_overlapping :
    (noteTree "home").Sound ∧ (noteCollector "home").workspace.IsResolved ∧
      (noteCollector "home").Agree "a.txt" "*.txt" ∧
      (noteCollector "home").HasRoom (noteTree "home") ["a.txt", "*.txt"] ∧
      (noteCollector "home").GathersOnce (noteTree "home") ["a.txt", "*.txt"] ∧
      ((noteCollector "home").gather (noteTree "home") ["a.txt", "*.txt"]).contents =
        [("a.txt", "x")] := by
  have hhome : IsFileName "home" := by decide
  have hsound := sound_noteTree hhome
  have hresolved := isResolved_noteCollector hhome.toIsName
  have hroom : (noteCollector "home").HasRoom (noteTree "home") ["a.txt", "*.txt"] := by
    decide +kernel
  exact ⟨hsound, hresolved, agree_of_root_eq (by decide) (by decide) (by decide), hroom,
    ((gathersOnce hsound hresolved _).resolve_right fun h => h.1 hroom).2, by decide +kernel⟩

/-- A name and the absolute path to it do not agree, and the note is gathered twice. -/
theorem gathered_twice_absolute :
    ((noteCollector "home").gather (noteTree "home") ["a.txt", "/home/a.txt"]).contents =
        [("a.txt", "x"), ("/home/a.txt", "x")] ∧
      (noteCollector "home").placeOf "a.txt" = ["home", "a.txt"] ∧
      (noteCollector "home").placeOf "/home/a.txt" = ["home", "a.txt"] := by
  decide +kernel

end Collector

end StepFlow
