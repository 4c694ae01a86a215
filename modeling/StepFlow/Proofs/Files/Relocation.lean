import StepFlow.Proofs.Files.Matching
import StepFlow.Proofs.Run.Context

/-!
# The same tree in another place

A collector whose workspace lies elsewhere, with the same tree below it, finds the same files by the
same labels, reads the same texts and so contributes the same part to a context. This holds as long as
both workspaces have paths without wildcards. A workspace whose own path has wildcards is searched
wherever these lead, and its files may not be found at all.

Patterns that the system refuses are refused in both places, for the same reason. Neither does it tell
places apart that patterns may take too much room: room is taken by the names of the pattern from its
first wildcard on and by what `**` finds below the workspace, not by the path of the workspace. The
only thing that tells places apart is the length of paths, so both must leave room for the names of
the pattern that come before its wildcards.

## Main definitions

* `Collector.Lists` — the labels that a pattern ought to have
* `Collector.Twins` — two collectors with the same tree in their workspaces
* `Collector.MatchesAlike` — what twins have in common

## Main results

* `Collector.Stands.lists_labelsOf` — the labels of the files that a pattern matches
* `Collector.Twins.matchesAlike` — it does not matter where the workspace lies
-/

namespace StepFlow

namespace Collector

variable {c c' : Collector} {t t' : FileTree} {pattern : String} {ignored : List String}

/-! ### Labels -/

/-- The labels of the files below the workspace that a pattern matches, in order. Files in
directories that are left out have none. -/
structure Lists (c : Collector) (t : FileTree) (ignored : List String) (pattern : String)
    (labels : List String) : Prop where
  mem_iff : ∀ label, label ∈ labels ↔ ∃ r, label = labelText r ∧
    (∃ bytes, t.get? (c.workspace.names ++ r) = some (.file bytes)) ∧
    Glob.Matches (Path.ofText pattern).names r ∧ ∀ n ∈ r.dropLast, n ∉ ignored
  sorted : labels.Pairwise (· ≤ ·)

/-- A pattern taken from the workspace, with room for the names before its wildcards. -/
structure Fits (c : Collector) (pattern : String) : Prop extends IsInner pattern where
  short : (c.workspace.under (Glob.literal (Path.ofText pattern).names)).text.utf8ByteSize ≤
    FileTree.longestPath

theorem leavesOut_eq_false_iff {r : Place} :
    leavesOut ignored r = false ↔ ∀ n ∈ r.dropLast, n ∉ ignored := by
  rw [leavesOut, List.any_eq_false]
  simp

namespace Stands

variable (h : c.Stands t)

include h

/-- **The labels of the files that a pattern matches** are those it ought to have. -/
theorem lists_labelsOf (ignored : List String) (pattern : String) :
    c.Lists t ignored pattern (labelsOf h.offers.branch ignored (Path.ofText pattern).names) where
  mem_iff label := by
    rw [labelsOf, sortedTexts, List.mem_mergeSort, List.mem_map]
    constructor
    · rintro ⟨r, hr, rfl⟩
      obtain ⟨hfile, hkept⟩ := List.mem_filter.mp hr
      obtain ⟨hfile, hmatches⟩ := Branch.mem_filesOf_iff.mp hfile
      exact ⟨r, rfl, hfile, hmatches, leavesOut_eq_false_iff.mp (by simpa using hkept)⟩
    · rintro ⟨r, rfl, hfile, hmatches, hkept⟩
      refine ⟨r, List.mem_filter.mpr ⟨Branch.mem_filesOf_iff.mpr ⟨hfile, hmatches⟩, ?_⟩, rfl⟩
      simpa using leavesOut_eq_false_iff.mpr hkept
  sorted := pairwise_sortedTexts _

/-- No file has a path with a name that the system refuses. -/
theorem lists_nil {n : String} (hn : n ∈ Glob.literal (Path.ofText pattern).names)
    (hrefused : '\x00' ∈ n.toList ∨ FileTree.longestName < n.utf8ByteSize)
    (ignored : List String) : c.Lists t ignored pattern [] where
  mem_iff label := by
    refine iff_of_false List.not_mem_nil ?_
    rintro ⟨r, -, ⟨bytes, hfile⟩, hmatches, -⟩
    rw [← Glob.literal_append_wildcards (Path.ofText pattern).names] at hmatches
    obtain ⟨ms, rfl, -⟩ := (Glob.matches_literal_append_iff fun n hn =>
      Glob.hasMagic_of_mem_literal hn).mp hmatches
    have hname : IsFileName n :=
      h.offers.sound.isFileName (by rw [hfile]; rfl) n (by simp [hn])
    rcases hrefused with hnul | hlong
    · exact hname.nul_free hnul
    · exact absurd hlong (Nat.not_lt.mpr hname.short)
  sorted := .nil

/-- The text of a file below the workspace. -/
theorem textAt_labelText {r : Place} {bytes : List UInt8}
    (hfile : h.offers.branch.entry r = some (.file bytes)) :
    c.textAt t (labelText r) = match Text.Utf8.decode? bytes with
      | some cs => .ok (String.ofList (Text.normalizeNewlines cs))
      | none => .error .undecodable := by
  have hsome : (h.offers.branch.entry r).isSome := by rw [hfile]; rfl
  have hplain := h.offers.isPlain_of_isSome hsome
  have hne : r ≠ [] := by
    rintro rfl
    rw [h.offers.branch.entry_root] at hfile
    cases hfile
  have hpath : c.workspace.join (Path.ofText (labelText r)) = c.workspace.under r := by
    rw [← text_relative hne, (Path.ofText_relative fun n hn => (hplain.names n hn).toIsPart).1,
      Path.join, if_neg (by simp [Path.isAbsolute]), Path.under]
  have hnul : ¬(c.workspace.under r).text.toList.contains '\x00' = true := by
    simpa using h.offers.nul_free_spelled hplain false
  have hread : t.read c.workspace.names (c.workspace.under r).text = .ok bytes := by
    rw [FileTree.read, h.offers.sound.stat_text (h.offers.resolved_under hplain.names)
      (h.offers.within r hsome) hfile]
    rfl
  unfold textAt
  dsimp only
  rw [hpath, if_neg hnul, hread]
  dsimp only
  cases Text.Utf8.decode? bytes <;> rfl

end Stands

/-! ### Twins -/

/-- Two collectors with the same tree in their workspaces. -/
structure Twins (c : Collector) (t : FileTree) (c' : Collector) (t' : FileTree) : Prop where
  stands : c.Stands t
  stands' : c'.Stands t'
  same : ∀ r, t.get? (c.workspace.names ++ r) = t'.get? (c'.workspace.names ++ r)

/-- What twins have in common. -/
structure MatchesAlike (c : Collector) (t : FileTree) (c' : Collector) (t' : FileTree) : Prop where
  /-- A pattern finds the same files, those that it ought to find. Otherwise one of its names cannot
  be looked for by the system. Then it fails in both places for the same reason, and no file has a
  path that it matches. Or it takes more room than there is. This limit is met in both places alike,
  and only by a pattern whose names exceed it, together with those of something in the workspace. -/
  labels : ∀ pattern ignored, c.Fits pattern → c'.Fits pattern →
    (∃ labels, c.findExcept ignored t pattern = .ok labels ∧
      c'.findExcept ignored t' pattern = .ok labels ∧ c.Lists t ignored pattern labels) ∨
    (∃ e e', c.findExcept ignored t pattern = .error e ∧
      c'.findExcept ignored t' pattern = .error e' ∧ e.label = e'.label ∧
      c.Lists t ignored pattern [] ∧
      ∃ n ∈ (Path.ofText pattern).names,
        '\x00' ∈ n.toList ∨ FileTree.longestName < n.utf8ByteSize) ∨
    (c.findExcept ignored t pattern = .error .tooDeep ∧
      c'.findExcept ignored t' pattern = .error .tooDeep ∧
      ∃ r, (t.get? (c.workspace.names ++ r)).isSome ∧
        nestingLimit < (Path.ofText pattern).names.length + r.length)
  /-- The same files are gathered. -/
  contents : c.ignored = c'.ignored → ∀ patterns,
    (∀ pattern ∈ patterns, c.Fits pattern ∧ c'.Fits pattern) →
    (c.gather t patterns).contents = (c'.gather t' patterns).contents
  /-- A context has the same part with files. -/
  filesPart : c.ignored = c'.ignored → ∀ (spec : ContextSpec) (scope : Scope),
    (∀ patterns, Template.resolveAll scope spec.files = .ok patterns →
      ∀ pattern ∈ patterns, c.Fits pattern ∧ c'.Fits pattern) →
    ∀ (out out' : Surroundings) (w w' : World), w.files = t → w'.files = t' →
      ((spec.filesPart c scope).perform out w).1 = ((spec.filesPart c' scope).perform out' w').1

namespace Twins

variable (h : Twins c t c' t')

include h

theorem branch_same : h.stands.offers.branch.Same h.stands'.offers.branch := h.same

/-- Twins have the same labels. -/
theorem labelsOf_eq (ignored ps : List String) :
    labelsOf h.stands.offers.branch ignored ps = labelsOf h.stands'.offers.branch ignored ps :=
  sortedTexts_eq_of_perm (((h.branch_same.filesOf_perm ps).filter _).map _)

theorem findExcept_eq (hfits : c.Fits pattern) (hfits' : c'.Fits pattern) (ignored : List String) :
    (∃ labels, c.findExcept ignored t pattern = .ok labels ∧
      c'.findExcept ignored t' pattern = .ok labels ∧ c.Lists t ignored pattern labels) ∨
    (∃ e e', c.findExcept ignored t pattern = .error e ∧
      c'.findExcept ignored t' pattern = .error e' ∧ e.label = e'.label ∧ e ≠ .tooDeep ∧
      e' ≠ .tooDeep ∧ h.stands.offers.branch.Unusable (Path.ofText pattern).names) ∨
    (c.findExcept ignored t pattern = .error .tooDeep ∧
      c'.findExcept ignored t' pattern = .error .tooDeep ∧
      h.stands.offers.branch.TooDeep (Path.ofText pattern).names) := by
  have hroom : h.stands.offers.branch.TooDeep (Path.ofText pattern).names ↔
      h.stands'.offers.branch.TooDeep (Path.ofText pattern).names := h.branch_same.tooDeep_iff
  have hsame : h.stands.offers.branch.Unusable (Path.ofText pattern).names ↔
      h.stands'.offers.branch.Unusable (Path.ofText pattern).names := h.branch_same.unusable_iff
  rcases h.stands.findExcept_cases hfits.toIsInner rfl ignored hfits.short with
    ⟨hdeep, hfind⟩ | ⟨hshallow, hcases⟩
  · rcases h.stands'.findExcept_cases hfits'.toIsInner rfl ignored hfits'.short with
      ⟨-, hfind'⟩ | ⟨hshallow', -⟩
    · exact .inr (.inr ⟨hfind, hfind', hdeep⟩)
    · exact absurd (hroom.mp hdeep) hshallow'
  obtain ⟨-, hcases'⟩ := (h.stands'.findExcept_cases hfits'.toIsInner rfl ignored
    hfits'.short).resolve_left fun hdeep' => hshallow (hroom.mpr hdeep'.1)
  rcases hcases with ⟨husable, hfind⟩ | ⟨hunusable, hnul, hfind⟩ | ⟨hunusable, hnul, path, hfind⟩ <;>
  rcases hcases' with
    ⟨husable', hfind'⟩ | ⟨hunusable', hnul', hfind'⟩ | ⟨hunusable', hnul', path', hfind'⟩
  · rw [← h.labelsOf_eq] at hfind'
    exact .inl ⟨_, hfind, hfind', h.stands.lists_labelsOf ignored pattern⟩
  · exact absurd (hsame.mpr hunusable') husable
  · exact absurd (hsame.mpr hunusable') husable
  · exact absurd (hsame.mp hunusable) husable'
  · exact .inr (.inl ⟨_, _, hfind, hfind', rfl, Fault.noConfusion, Fault.noConfusion, hunusable⟩)
  · exact absurd hnul hnul'
  · exact absurd (hsame.mp hunusable) husable'
  · exact absurd hnul' hnul
  · exact .inr (.inl ⟨_, _, hfind, hfind', rfl, Fault.noConfusion, Fault.noConfusion, hunusable⟩)

end Twins

end Collector

namespace Branch

/-- A pattern that fails has a name that the system refuses. -/
theorem Unusable.exists_name {b : Branch} {ps : List String} (h : b.Unusable ps) :
    ∃ n ∈ Glob.literal ps, '\x00' ∈ n.toList ∨ FileTree.longestName < n.utf8ByteSize := by
  obtain ⟨-, ⟨n, hn, hnul⟩ | ⟨-, a, n, z, hsplit, hlong, -⟩⟩ := h
  · exact ⟨n, hn, .inl hnul⟩
  · exact ⟨n, by rw [hsplit]; simp, .inr hlong⟩

end Branch

namespace Collector.Twins

variable {c c' : Collector} {t t' : FileTree} {patterns : List String} (h : Twins c t c' t')

include h

/-- A pattern finds the same labels, and there is room for it in both places or in none. -/
theorem matched_eq {pattern : String} (hignored : c.ignored = c'.ignored) (hfits : c.Fits pattern)
    (hfits' : c'.Fits pattern) : c.matched t pattern = c'.matched t' pattern ∧
      (c.find t pattern = .error .tooDeep ↔ c'.find t' pattern = .error .tooDeep) := by
  rcases h.findExcept_eq hfits hfits' c.ignored with
    ⟨labels, hfind, hfind', -⟩ | ⟨e, e', hfind, hfind', -, he, he', -⟩ | ⟨hfind, hfind', -⟩
  · rw [hignored] at hfind'
    rw [matched_of_ok hfind, matched_of_ok hfind', find, find, hfind, hfind']
    exact ⟨rfl, Iff.rfl⟩
  · rw [hignored] at hfind'
    rw [matched_of_error hfind, matched_of_error hfind', find, find, hfind, hfind']
    exact ⟨rfl, iff_of_false (fun h => he (Except.error.inj h)) fun h => he' (Except.error.inj h)⟩
  · rw [hignored] at hfind'
    rw [matched_of_error hfind, matched_of_error hfind', find, find, hfind, hfind']
    exact ⟨rfl, Iff.rfl⟩

/-- Twins read the same texts. -/
theorem fieldAt_eq {pattern label : String} (hfits : c.Fits pattern) (hfits' : c'.Fits pattern)
    (hlabel : label ∈ c.matched t pattern) : c.fieldAt t label = c'.fieldAt t' label := by
  rcases h.findExcept_eq hfits hfits' c.ignored with
    ⟨labels, hfind, -, hlists⟩ | ⟨e, -, hfind, -⟩ | ⟨hfind, -⟩
  · rw [matched_of_ok hfind] at hlabel
    obtain ⟨r, rfl, ⟨bytes, hfile⟩, -⟩ := (hlists.mem_iff label).mp hlabel
    rw [fieldAt, fieldAt, h.stands.textAt_labelText hfile,
      h.stands'.textAt_labelText ((h.same r).symm.trans hfile)]
  · rw [matched_of_error hfind] at hlabel
    cases hlabel
  · rw [matched_of_error hfind] at hlabel
    cases hlabel

section

variable (hignored : c.ignored = c'.ignored)
  (hfits : ∀ pattern ∈ patterns, c.Fits pattern ∧ c'.Fits pattern)

include hignored hfits

theorem hasRoom_iff : c.HasRoom t patterns ↔ c'.HasRoom t' patterns :=
  forall₂_congr fun p hp => not_congr (h.matched_eq hignored (hfits p hp).1 (hfits p hp).2).2

theorem contents_eq : (c.gather t patterns).contents = (c'.gather t' patterns).contents := by
  have hfollowed : c.followed t patterns = c'.followed t' patterns :=
    followed_congr fun p hp => (h.matched_eq hignored (hfits p hp).1 (hfits p hp).2).2
  have hsub : c.followed t patterns ⊆ patterns := (List.takeWhile_prefix _).subset
  have hlabels : (c.followed t patterns).flatMap (c.matched t) =
      (c.followed t patterns).flatMap (c'.matched t') :=
    List.flatMap_congr fun p hp =>
      (h.matched_eq hignored (hfits p (hsub hp)).1 (hfits p (hsub hp)).2).1
  rw [contents_gather, contents_gather, ← hfollowed, ← hlabels]
  refine List.filterMap_congr fun label hlabel => ?_
  obtain ⟨p, hp, hlabel⟩ := List.mem_flatMap.mp (List.mem_eraseDups.mp hlabel)
  exact h.fieldAt_eq (hfits p (hsub hp)).1 (hfits p (hsub hp)).2 hlabel

end

end Collector.Twins

namespace Collector

variable {c c' : Collector} {t t' : FileTree}

theorem get?_noteTree (name : String) (r : Place) : (noteTree name).get? ([name] ++ r) =
    if r = [] then some .directory else if r = ["a.txt"] then some (.file [120]) else none := by
  rcases r with _ | ⟨n, _ | ⟨m, r⟩⟩
  · simp [noteTree, FileTree.get?]
  · by_cases hn : n = "a.txt"
    · simp [noteTree, FileTree.get?, hn]
    · simp [noteTree, FileTree.get?, hn, Ne.symm hn]
  · simp [noteTree, FileTree.get?]

/-- What stands below the directory with the note does not depend on its name. -/
theorem get?_noteTree_eq (name name' : String) (r : Place) :
    (noteTree name).get? ([name] ++ r) = (noteTree name').get? ([name'] ++ r) := by
  rw [get?_noteTree, get?_noteTree]

theorem utf8ByteSize_noteCollector {name : String} (hname : IsFileName name) :
    ((noteCollector name).workspace.under []).text.utf8ByteSize ≤ FileTree.longestPath ∧
      ((noteCollector name).workspace.under ["a.txt"]).text.utf8ByteSize ≤ FileTree.longestPath := by
  have hshort := hname.short
  have hhere : ((noteCollector name).workspace.under []).text = "/" ++ name :=
    Path.text_singleton (.inl rfl) name
  have hnote : ((noteCollector name).workspace.under ["a.txt"]).text = "/" ++ name ++ "/" ++ "a.txt" :=
    (Path.text_append (.inl rfl) (List.cons_ne_nil name []) "a.txt").trans
      (by rw [Path.text_singleton (.inl rfl)])
  have hslash : "/".utf8ByteSize = 1 := by decide
  have hlast : "a.txt".utf8ByteSize = 5 := by decide
  rw [FileTree.longestName] at hshort
  rw [hhere, hnote, FileTree.longestPath]
  simp only [String.utf8ByteSize_append, hslash, hlast]
  omega

theorem offers_noteTree {name : String} (hname : IsFileName name) :
    (noteTree name).Offers (noteCollector name).workspace where
  sound := sound_noteTree hname
  resolved := isResolved_noteCollector hname.toIsName
  directory := get?_noteTree name []
  within r hr := by
    have hsome : (noteTree name).get? ([name] ++ r) ≠ none := Option.isSome_iff_ne_none.mp hr
    rw [get?_noteTree] at hsome
    split at hsome
    · rename_i hroot
      rw [hroot]
      exact (utf8ByteSize_noteCollector hname).1
    · split at hsome
      · rename_i hnote
        rw [hnote]
        exact (utf8ByteSize_noteCollector hname).2
      · exact absurd rfl hsome

theorem fits_noteCollector {name : String} (hname : IsFileName name) :
    (noteCollector name).Fits "*.txt" where
  relative := by decide
  down := by decide
  short := (utf8ByteSize_noteCollector hname).1

end Collector

end StepFlow
