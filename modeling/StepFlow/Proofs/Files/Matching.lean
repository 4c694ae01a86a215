import StepFlow.Files.Collect
import StepFlow.Proofs.Files.Expansion

/-!
# Matching in a workspace

A relative pattern is put behind the path of the workspace, and the files found have as labels what
remains of their paths. So the workspace's own path goes through the matching. It comes out unharmed
if it has no wildcards: then the labels are the paths, from the workspace on, to the files that match
the pattern, those in directories to be left out apart. Where the workspace lies does not matter.

A pattern that no file system could look for fails at every place alike, and so does one that takes
more room than there is.

## Main definitions

* `Branch.TooDeep`, `Branch.Unusable` — patterns that fail
* `Collector.Stands` — a collector in a workspace that does no harm
* `Collector.labelsOf` — the labels of the files that match a pattern

## Main results

* `Collector.findExcept_cases` — the labels of the files that a pattern matches
-/

namespace StepFlow

/-! ### Files -/

namespace Glob

theorem matches_literal_append_iff {ls ps ns : List String} (h : ∀ n ∈ ls, hasMagic n = false) :
    Matches (ls ++ ps) ns ↔ ∃ ms, ns = ls ++ ms ∧ Matches ps ms := by
  induction ls generalizing ns with
  | nil => simp
  | cons p ls ih =>
    obtain ⟨hp, hls⟩ := List.forall_mem_cons.mp h
    rw [List.cons_append]
    constructor
    · intro hns
      cases hns with
      | plain _ hns =>
        obtain ⟨ms, rfl, hms⟩ := (ih hls).mp hns
        exact ⟨ms, rfl, hms⟩
      | wild hmagic =>
        rw [hp] at hmagic
        cases hmagic
      | deep _ hdeep =>
        rw [hasMagic_of_isRecursive hdeep] at hp
        cases hp
    · rintro ⟨ms, rfl, hms⟩
      exact .plain hp ((ih hls).mpr ⟨ms, rfl, hms⟩)

end Glob

namespace Branch

open Glob

variable (b : Branch)

/-- A file stands at a place. -/
def isFile (r : Place) : Bool :=
  match b.entry r with
  | some (.file _) => true
  | _ => false

/-- The files to which a pattern leads. -/
def filesOf (ps : List String) : List Place :=
  (b.reached false (wildcards ps) (literal ps)).filter b.isFile

/-- A pattern that takes more room than there is. -/
def TooDeep (ps : List String) : Prop :=
  b.Exceeds nestingLimit false (wildcards ps) (literal ps)

/-- A pattern that the system refuses: the names before its first wildcard hold a NUL, or one of them
is too long and nothing but `**` follows. -/
def Unusable (ps : List String) : Prop :=
  wildcards ps ≠ [] ∧ ((∃ n ∈ literal ps, '\x00' ∈ n.toList) ∨
    (∀ p ∈ wildcards ps, isRecursive p = true) ∧ Overlong b.entry (literal ps))

variable {b} {ps : List String} {x : Place}

theorem isFile_iff : b.isFile x = true ↔ ∃ bytes, b.entry x = some (.file bytes) := by
  rw [isFile]
  split
  · exact iff_of_true rfl ⟨_, ‹_›⟩
  · rename_i hother
    refine iff_of_false nofun ?_
    rintro ⟨bytes, hfile⟩
    exact hother bytes hfile

/-- **A pattern finds the files whose paths it matches.** -/
theorem mem_filesOf_iff :
    x ∈ b.filesOf ps ↔ (∃ bytes, b.entry x = some (.file bytes)) ∧ Matches ps x := by
  rw [filesOf, List.mem_filter, isFile_iff, and_comm]
  refine and_congr_right fun ⟨bytes, hfile⟩ => ?_
  rw [mem_reached_iff hfile]
  conv_rhs => rw [← literal_append_wildcards ps]
  exact (matches_literal_append_iff fun n hn => hasMagic_of_mem_literal hn).symm

theorem Same.isFile_eq {b' : Branch} (h : b.Same b') : b.isFile = b'.isFile := by
  funext r
  rw [isFile, isFile, h]

theorem Same.filesOf_perm {b' : Branch} (h : b.Same b') (ps : List String) :
    (b.filesOf ps).Perm (b'.filesOf ps) := by
  rw [filesOf, filesOf, h.isFile_eq]
  exact (h.reached_perm _ _).filter _

theorem Same.tooDeep_iff {b' : Branch} (h : b.Same b') : b.TooDeep ps ↔ b'.TooDeep ps :=
  h.exceeds_iff

theorem Same.unusable_iff {b' : Branch} (h : b.Same b') : b.Unusable ps ↔ b'.Unusable ps := by
  simp only [Unusable, Overlong, h _]

end Branch

namespace Collector

variable {t : FileTree} {c : Collector}

/-- A workspace that the tree offers, and whose path has no wildcards. -/
structure Stands (c : Collector) (t : FileTree) : Prop where
  offers : t.Offers c.workspace
  plain : ∀ n ∈ c.workspace.names, Glob.hasMagic n = false

/-- A pattern that is taken from the workspace and leads down only. -/
structure IsInner (pattern : String) : Prop where
  relative : (Path.ofText pattern).isAbsolute = false
  down : ".." ∉ (Path.ofText pattern).names

/-- The label of a file below the workspace. -/
def labelText (r : Place) : String := "/".intercalate r

/-- A file lies in a directory that is left out. -/
def leavesOut (ignored : List String) (r : Place) : Bool := r.dropLast.any ignored.contains

/-- The labels of the files that match a pattern, in order. -/
def labelsOf (b : Branch) (ignored ps : List String) : List String :=
  sortedTexts (((b.filesOf ps).filter fun r => !leavesOut ignored r).map labelText)

theorem IsInner.names {pattern : String} (h : IsInner pattern) :
    ∀ n ∈ (Path.ofText pattern).names, Path.IsName n := by
  intro n hn
  refine Path.isName_of_mem_ofText hn ?_
  rintro rfl
  exact h.down hn

theorem labelOf_under {pattern : String} (h : IsInner pattern) (r : Place) :
    c.labelOf pattern (c.workspace.under r) = ⟨"", r⟩ := by
  have hprefix : c.workspace.names.isPrefixOf? (c.workspace.names ++ r) = some r :=
    List.isPrefixOf?_eq_some_iff_append_eq.mpr rfl
  rw [labelOf, if_neg (by simp [h.relative]), Path.relativeTo?, Path.under, if_pos rfl, hprefix]
  rfl

theorem text_relative {r : Place} (hr : r ≠ []) : Path.text ⟨"", r⟩ = labelText r := by
  rw [Path.text, if_neg (by simpa using hr), String.empty_append, labelText]

theorem fullPattern_eq {pattern : String} (h : IsInner pattern) :
    c.fullPattern pattern = (c.workspace.under (Path.ofText pattern).names).text := by
  have hrelative := h.relative
  rw [fullPattern, if_neg (by simp [hrelative]), Path.join, if_neg (by simp [hrelative]), Path.under]

namespace Stands

variable (h : c.Stands t) {r : Place}

include h

/-- Whether a file stands where a path found leads. -/
theorem isFile_of_isSome (hr : (h.offers.branch.entry r).isSome) (here : Place) :
    isFile t here (c.workspace.under r).text = .ok (h.offers.branch.isFile r) := by
  obtain ⟨e, he⟩ := Option.isSome_iff_exists.mp hr
  have hresolved := h.offers.resolved_under (h.offers.isPlain_of_isSome hr).names
  rw [isFile, h.offers.sound.look?_text_of_some hresolved (h.offers.within r hr) he, Branch.isFile,
    he]
  cases e <;> rfl

/-- Where nothing stands there is no file, and looking there fails if a name is too long. -/
theorem isFile_of_none (hr : h.offers.branch.entry r = none) (hnames : ∀ n ∈ r, Path.IsName n)
    (hshort : (c.workspace.under r).text.utf8ByteSize ≤ FileTree.longestPath) (here : Place) :
    (Overlong h.offers.branch.entry r ∧ isFile t here (c.workspace.under r).text =
      .error (.file .nameTooLong (c.workspace.under r).text)) ∨
    (¬Overlong h.offers.branch.entry r ∧ isFile t here (c.workspace.under r).text = .ok false) := by
  have hoverlong := h.offers.sound.follow_eq_nameTooLong_iff h.offers.directory hnames
  rcases h.offers.sound.look?_text_of_none (h.offers.resolved_under hnames) here hshort
    h.offers.directory rfl hr with ⟨hfollow, hlook⟩ | ⟨hfollow, hlook⟩
  · exact .inl ⟨hoverlong.mp hfollow, by rw [isFile, hlook]; rfl⟩
  · exact .inr ⟨fun hlong => hfollow (hoverlong.mpr hlong), by rw [isFile, hlook]; rfl⟩

theorem not_overlong_of_isSome (hr : (h.offers.branch.entry r).isSome) :
    ¬Overlong h.offers.branch.entry r := by
  rintro ⟨a, n, z, rfl, hlong, -⟩
  have hn := h.offers.sound.isFileName hr n (by simp)
  exact absurd hlong (Nat.not_lt.mpr hn.short)

end Stands

/-! ### Labels -/

namespace Stands

variable (h : c.Stands t) {pattern : String} {ps : List String} (hp : IsInner pattern)
  (hps : (Path.ofText pattern).names = ps) (ignored : List String)

include h hp

/-- The labels of files found. -/
theorem findExcept_eq_ok {found : List String} {rs : List Place}
    (hfound : Glob.expand t c.workspace.names (c.fullPattern pattern) = .ok found)
    (hrs : found.map Path.ofText = rs.map c.workspace.under)
    (hfiles : ∀ r ∈ rs, isFile t c.workspace.names (c.workspace.under r).text =
      .ok (h.offers.branch.isFile r)) :
    c.findExcept ignored t pattern =
      .ok (sortedTexts (((rs.filter h.offers.branch.isFile).filter
        fun r => !leavesOut ignored r).map labelText)) := by
  have hfilter := filterM_map_eq_ok (F := fun p => isFile t c.workspace.names p.text)
    (g := c.workspace.under) hfiles
  have hlabels : ((rs.filter h.offers.branch.isFile).map c.workspace.under).map
      (c.labelOf pattern) = (rs.filter h.offers.branch.isFile).map (Path.mk "" ·) := by
    rw [List.map_map]
    exact List.map_congr_left fun r _ => labelOf_under hp r
  have hignored (r : Place) : isIgnored ignored ⟨"", r⟩ = leavesOut ignored r := rfl
  rw [findExcept, hfound]
  dsimp only [bind, Except.bind]
  rw [hrs, hfilter]
  refine congrArg (Except.ok ∘ sortedTexts) ?_
  rw [hlabels, List.filter_map, List.map_map]
  refine List.map_congr_left fun r hr => text_relative ?_
  -- The workspace itself is no file.
  rintro rfl
  obtain ⟨bytes, hfile⟩ := Branch.isFile_iff.mp (List.mem_filter.mp (List.mem_filter.mp hr).1).2
  rw [h.offers.branch.entry_root] at hfile
  cases hfile

/-- A pattern whose wildcards are taken from something that stands there. -/
theorem findExcept_of_isSome {found : List String}
    (hexpand : Glob.expand t c.workspace.names (c.fullPattern pattern) = .ok found)
    (hspells : List.Forall₂ (Glob.Spells c.workspace) found
      (h.offers.branch.reached false (Glob.wildcards ps) (Glob.literal ps)))
    (hsome : (h.offers.branch.entry (Glob.literal ps)).isSome) :
    c.findExcept ignored t pattern = .ok (labelsOf h.offers.branch ignored ps) := by
  refine h.findExcept_eq_ok hp ignored hexpand (h.offers.map_ofText_of_spells hspells) ?_
  intro r hr
  refine h.isFile_of_isSome ?_ _
  obtain ⟨g, rfl, rfl | hg⟩ := Branch.exists_of_mem_reached hr
  · rwa [List.append_nil]
  · exact hg

include hps

/-- A pattern without wildcards finds a file or nothing. -/
theorem findExcept_of_plain (hwild : Glob.wildcards ps = []) :
    c.findExcept ignored t pattern = .ok (labelsOf h.offers.branch ignored ps) := by
  have hnames : ∀ n ∈ ps, Path.IsName n := hps ▸ hp.names
  have hall := Glob.literal_append_wildcards ps
  rw [hwild, List.append_nil] at hall
  have hexpand := h.offers.expand_literal c.workspace.names h.plain hnames hwild
  rw [← hps, ← fullPattern_eq hp, hps] at hexpand
  rw [labelsOf, Branch.filesOf, hwild, hall, Branch.reached]
  by_cases hsome : (h.offers.branch.entry ps).isSome
  · rw [if_pos hsome] at hexpand
    refine h.findExcept_eq_ok hp ignored hexpand ?_ ?_
    · rw [fullPattern_eq hp, hps]
      exact congrArg ([·]) (Path.ofText_text (h.offers.resolved_under hnames).normal)
    · exact List.forall_mem_singleton.mpr (h.isFile_of_isSome hsome _)
  · have hnone : h.offers.branch.isFile ps = false := by
      rw [Branch.isFile, Option.not_isSome_iff_eq_none.mp hsome]
    rw [if_neg hsome] at hexpand
    have hnothing : ([] : List String).map Path.ofText = ([] : List Place).map c.workspace.under :=
      rfl
    rw [h.findExcept_eq_ok hp ignored hexpand hnothing fun r hr => absurd hr List.not_mem_nil,
      List.filter_cons_of_neg (by simp [hnone])]

/-- A pattern whose wildcards are taken from where nothing stands. -/
theorem findExcept_of_none {found : List String}
    (hexpand : Glob.expand t c.workspace.names (c.fullPattern pattern) = .ok found)
    (hspells : List.Forall₂ (Glob.Spells c.workspace) found
      (h.offers.branch.reached false (Glob.wildcards ps) (Glob.literal ps)))
    (hnone : h.offers.branch.entry (Glob.literal ps) = none)
    (hshort : (c.workspace.under (Glob.literal ps)).text.utf8ByteSize ≤ FileTree.longestPath) :
    (¬((∀ p ∈ Glob.wildcards ps, Glob.isRecursive p = true) ∧
        Overlong h.offers.branch.entry (Glob.literal ps)) ∧
      c.findExcept ignored t pattern = .ok (labelsOf h.offers.branch ignored ps)) ∨
    ((∀ p ∈ Glob.wildcards ps, Glob.isRecursive p = true) ∧
        Overlong h.offers.branch.entry (Glob.literal ps)) ∧
      ∃ path, c.findExcept ignored t pattern = .error (.file .nameTooLong path) := by
  have hliteral : ∀ n ∈ Glob.literal ps, Path.IsName n := fun n hn =>
    (hps ▸ hp.names) n ((List.takeWhile_prefix _).subset hn)
  have hfound := h.offers.map_ofText_of_spells hspells
  have hhere : ∀ r ∈ h.offers.branch.reached false (Glob.wildcards ps) (Glob.literal ps),
      r = Glob.literal ps := fun r hr => Branch.eq_of_mem_reached hnone hr
  have hdeep : h.offers.branch.reached false (Glob.wildcards ps) (Glob.literal ps) ≠ [] ↔
      ∀ p ∈ Glob.wildcards ps, Glob.isRecursive p = true := Branch.reached_ne_nil_iff hnone
  rcases h.isFile_of_none hnone hliteral hshort c.workspace.names with
    ⟨hlong, hfile⟩ | ⟨hlong, hfile⟩
  · cases hreached : h.offers.branch.reached false (Glob.wildcards ps) (Glob.literal ps) with
    | nil =>
      refine .inl ⟨fun hall => hdeep.mpr hall.1 hreached, ?_⟩
      refine h.findExcept_eq_ok hp ignored hexpand hfound ?_
      rw [hreached]
      exact nofun
    | cons r rs =>
      have hfirst : r = Glob.literal ps := hhere r (by rw [hreached]; exact List.mem_cons_self)
      have hall := hdeep.mp (by rw [hreached]; exact List.cons_ne_nil _ _)
      refine .inr ⟨⟨hall, hlong⟩, (c.workspace.under (Glob.literal ps)).text, ?_⟩
      rw [hreached, hfirst, List.map_cons] at hfound
      have hfilter : (c.workspace.under (Glob.literal ps) :: rs.map c.workspace.under).filterM
          (fun p => isFile t c.workspace.names p.text) = .error _ := filterM_eq_error hfile
      rw [findExcept, hexpand]
      dsimp only [bind, Except.bind]
      rw [hfound, hfilter]
  · refine .inl ⟨fun hall => hlong hall.2, ?_⟩
    refine h.findExcept_eq_ok hp ignored hexpand hfound fun r hr => ?_
    rw [hhere r hr, hfile, Branch.isFile, hnone]

omit hp hps in
/-- A pattern with a NUL in front of its wildcards, if there is room to come to this. -/
theorem findExcept_of_nul (hnul : ∃ n ∈ Glob.literal ps, '\x00' ∈ n.toList)
    (hexpand : Glob.expand t c.workspace.names (c.fullPattern pattern) =
      .error (if nestingLimit < (Glob.wildcards ps).length then .tooDeep else .nulInPath)) :
    (h.offers.branch.TooDeep ps ∧ c.findExcept ignored t pattern = .error .tooDeep) ∨
      ¬h.offers.branch.TooDeep ps ∧ c.findExcept ignored t pattern = .error .nulInPath := by
  have hnone : h.offers.branch.entry (Glob.literal ps) = none := by
    obtain ⟨n, hn, hmem⟩ := hnul
    refine Option.not_isSome_iff_eq_none.mp fun hsome => ?_
    exact (h.offers.isPlain_of_isSome hsome n hn).2 hmem
  have hdeep : h.offers.branch.TooDeep ps ↔ nestingLimit < (Glob.wildcards ps).length :=
    Branch.exceeds_iff_of_none hnone
  have hfind : c.findExcept ignored t pattern =
      .error (if nestingLimit < (Glob.wildcards ps).length then .tooDeep else .nulInPath) := by
    rw [findExcept, hexpand]
    rfl
  rw [hdeep, hfind]
  split
  · exact .inl ⟨‹_›, rfl⟩
  · exact .inr ⟨‹_›, rfl⟩

/-- A pattern with wildcards that there is room for. -/
theorem findExcept_of_room {found : List String} (hwild : Glob.wildcards ps ≠ [])
    (hnul : ¬∃ n ∈ Glob.literal ps, '\x00' ∈ n.toList)
    (hexpand : Glob.expand t c.workspace.names (c.fullPattern pattern) = .ok found)
    (hspells : List.Forall₂ (Glob.Spells c.workspace) found
      (h.offers.branch.reached false (Glob.wildcards ps) (Glob.literal ps)))
    (hshort : (c.workspace.under (Glob.literal ps)).text.utf8ByteSize ≤ FileTree.longestPath) :
    (¬h.offers.branch.Unusable ps ∧
        c.findExcept ignored t pattern = .ok (labelsOf h.offers.branch ignored ps)) ∨
      h.offers.branch.Unusable ps ∧
        ∃ path, c.findExcept ignored t pattern = .error (.file .nameTooLong path) := by
  by_cases hsome : (h.offers.branch.entry (Glob.literal ps)).isSome
  · refine .inl ⟨?_, h.findExcept_of_isSome hp ignored hexpand hspells hsome⟩
    rintro ⟨-, hmem | ⟨-, hlong⟩⟩
    · exact hnul hmem
    · exact h.not_overlong_of_isSome hsome hlong
  · have hnone := Option.not_isSome_iff_eq_none.mp hsome
    rcases h.findExcept_of_none hp hps ignored hexpand hspells hnone hshort with
      ⟨hall, hok⟩ | ⟨hall, herror⟩
    · refine .inl ⟨?_, hok⟩
      rintro ⟨-, hmem | hall'⟩
      · exact hnul hmem
      · exact hall hall'
    · exact .inr ⟨⟨hwild, .inr hall⟩, herror⟩

/-- **The labels of the files that a pattern matches.** -/
theorem findExcept_cases
    (hshort : (c.workspace.under (Glob.literal ps)).text.utf8ByteSize ≤ FileTree.longestPath) :
    (h.offers.branch.TooDeep ps ∧ c.findExcept ignored t pattern = .error .tooDeep) ∨
    ¬h.offers.branch.TooDeep ps ∧
      ((¬h.offers.branch.Unusable ps ∧
        c.findExcept ignored t pattern = .ok (labelsOf h.offers.branch ignored ps)) ∨
      (h.offers.branch.Unusable ps ∧ (∃ n ∈ Glob.literal ps, '\x00' ∈ n.toList) ∧
        c.findExcept ignored t pattern = .error .nulInPath) ∨
      (h.offers.branch.Unusable ps ∧ (¬∃ n ∈ Glob.literal ps, '\x00' ∈ n.toList) ∧
        ∃ path, c.findExcept ignored t pattern = .error (.file .nameTooLong path))) := by
  by_cases hwild : Glob.wildcards ps = []
  · refine .inr ⟨?_, .inl ⟨fun hunusable => hunusable.1 hwild,
      h.findExcept_of_plain hp hps ignored hwild⟩⟩
    rw [Branch.TooDeep, hwild]
    exact Branch.not_exceeds_nil
  have hexpand := h.offers.expand_wildcards c.workspace.names h.plain (hps ▸ hp.names) hwild
  rw [← hps, ← fullPattern_eq hp, hps] at hexpand
  rcases hexpand with ⟨hnul, hexpand⟩ | ⟨hplain, ⟨hroom, found, hexpand, hspells⟩ | ⟨hdeep, hexpand⟩⟩
  · rcases h.findExcept_of_nul ignored hnul hexpand with hdeep | ⟨hroom, herror⟩
    · exact .inl hdeep
    · exact .inr ⟨hroom, .inr (.inl ⟨⟨hwild, .inl hnul⟩, hnul, herror⟩)⟩
  · have hnul : ¬∃ n ∈ Glob.literal ps, '\x00' ∈ n.toList := by
      rintro ⟨n, hn, hmem⟩
      exact (hplain n hn).2 hmem
    refine .inr ⟨hroom, ?_⟩
    rcases h.findExcept_of_room hp hps ignored hwild hnul hexpand hspells hshort with
      hfound | ⟨hunusable, herror⟩
    · exact .inl hfound
    · exact .inr (.inr ⟨hunusable, hnul, herror⟩)
  · refine .inl ⟨hdeep, ?_⟩
    rw [findExcept, hexpand]
    rfl

end Stands

end Collector

end StepFlow
