import StepFlow.Proofs.Files.Wildcards
import StepFlow.Proofs.Value.Text

/-!
# Expanding patterns

An absolute pattern is taken apart from its end, and everything on the way is text: directories are
spelled out, listed, and their names put behind them. Below a directory that the tree offers this
comes to the same as leading the pattern's names from place to place, provided that the path of the
directory has no wildcards itself. The names before the first wildcard are taken as they are, whether
anything stands there or not, and a NUL among them makes the listing fail. A pattern that exceeds the
room there is fails, too.

## Main definitions

* `Glob.literal`, `Glob.wildcards` — a pattern up to its first wildcard, and from there on
* `Glob.Spells`, `Glob.PutsBelow` — texts spell places below a directory

## Main results

* `FileTree.Offers.step_spelled` — one name of a pattern
* `FileTree.Offers.expand_literal`, `FileTree.Offers.expand_wildcards` — whole patterns
-/

namespace StepFlow

/-! ### Lists of outcomes -/

section

variable {α β γ : Type} {Q : α → β → Prop} {l : List α}

theorem exists_of_forall₂ {bs : List β} {b : β} (h : List.Forall₂ Q l bs) (hb : b ∈ bs) :
    ∃ a ∈ l, Q a b := by
  induction h with
  | nil => cases hb
  | cons hab _ ih =>
    rcases List.mem_cons.mp hb with rfl | hb
    · exact ⟨_, List.mem_cons_self, hab⟩
    · obtain ⟨a, ha, hq⟩ := ih hb
      exact ⟨a, List.mem_cons_of_mem _ ha, hq⟩

theorem map_flatten_of_forall₂ {f : β → γ} {g : α → List γ} {bs : List (List β)}
    (h : List.Forall₂ (fun a b => b.map f = g a) l bs) : bs.flatten.map f = l.flatMap g := by
  induction h with
  | nil => rfl
  | cons hab _ ih => rw [List.flatten_cons, List.map_append, List.flatMap_cons, hab, ih]

end

section

variable {ε α β : Type} {F : β → Except ε Bool} {g : α → β} {f : α → Bool} {l : List α}

theorem filterAuxM_map_eq_ok (h : ∀ a ∈ l, F (g a) = .ok (f a)) (acc : List β) :
    (l.map g).filterAuxM F acc = .ok (((l.filter f).map g).reverse ++ acc) := by
  induction l generalizing acc with
  | nil => rfl
  | cons a l ih =>
    obtain ⟨ha, hl⟩ := List.forall_mem_cons.mp h
    rw [List.map_cons, List.filterAuxM, ha]
    dsimp only [bind, Except.bind]
    rw [ih hl]
    cases hfa : f a <;> simp [hfa]

theorem filterM_map_eq_ok (h : ∀ a ∈ l, F (g a) = .ok (f a)) :
    (l.map g).filterM F = .ok ((l.filter f).map g) := by
  rw [List.filterM, filterAuxM_map_eq_ok h]
  dsimp only [bind, Except.bind]
  rw [List.append_nil, List.reverse_reverse]
  rfl

theorem filterM_eq_error {b : β} {bs : List β} {e : ε} (h : F b = .error e) :
    (b :: bs).filterM F = .error e := by
  rw [List.filterM, List.filterAuxM, h]
  rfl

theorem failsOnly_filterM {P : ε → Prop} (h : ∀ b, FailsOnly P (F b)) (bs : List β) :
    FailsOnly P (bs.filterM F) := by
  have haux (acc : List β) : FailsOnly P (bs.filterAuxM F acc) := by
    induction bs generalizing acc with
    | nil => exact .ok acc
    | cons b bs ih => exact (h b).bind fun keep => ih _
  rw [List.filterM]
  exact (haux []).bind fun reversed => .ok reversed.reverse

theorem filterAuxM_subset {bs acc kept : List β} (h : bs.filterAuxM F acc = .ok kept) :
    kept ⊆ acc ++ bs := by
  induction bs generalizing acc with
  | nil =>
    cases h
    exact List.subset_append_left _ _
  | cons b bs ih =>
    rw [List.filterAuxM] at h
    obtain ⟨keep, -, h⟩ := exists_of_bind_ok h
    refine List.Subset.trans (ih h) ?_
    cases keep <;> simp

theorem filterM_subset {bs kept : List β} (h : bs.filterM F = .ok kept) : kept ⊆ bs := by
  rw [List.filterM] at h
  obtain ⟨reversed, hreversed, h⟩ := exists_of_bind_ok h
  cases h
  exact List.Subset.trans (List.reverse_subset.mpr (List.Subset.refl _))
    (filterAuxM_subset hreversed)

end

namespace Glob

theorem hasMagic_iff {s : String} :
    hasMagic s = true ↔ ∃ c ∈ s.toList, c = '*' ∨ c = '?' ∨ c = '[' := by
  simp [hasMagic, or_assoc]

/-- A path's text has a wildcard just if one of its names has. -/
theorem hasMagic_text (path : Path) (h : Path.IsRoot path.root) :
    hasMagic path.text = true ↔ ∃ n ∈ path.names, hasMagic n = true := by
  have hslash {c : Char} (hc : c = '*' ∨ c = '?' ∨ c = '[') : c ≠ '/' := by
    rcases hc with rfl | rfl | rfl <;> decide
  simp only [hasMagic_iff]
  constructor
  · rintro ⟨c, hmem, hc⟩
    obtain ⟨n, hn, hmem⟩ := (Path.mem_text h (hslash hc)).mp hmem
    exact ⟨n, hn, c, hmem, hc⟩
  · rintro ⟨n, hn, c, hmem, hc⟩
    exact ⟨c, (Path.mem_text h (hslash hc)).mpr ⟨n, hn, hmem⟩, hc⟩

/-- The names of a pattern before the first one with a wildcard. -/
def literal (ps : List String) : List String := ps.takeWhile (!hasMagic ·)

/-- The names of a pattern from the first one with a wildcard on. -/
def wildcards (ps : List String) : List String := ps.dropWhile (!hasMagic ·)

theorem literal_append_wildcards (ps : List String) : literal ps ++ wildcards ps = ps :=
  List.takeWhile_append_dropWhile

theorem hasMagic_of_mem_literal {ps : List String} {n : String} (h : n ∈ literal ps) :
    hasMagic n = false := by
  simpa using List.mem_takeWhile_imp h

/-- The paths that one name of a pattern matches in a directory. -/
def pathsIn (t : FileTree) (here : Place) (room : Nat) (base : String) (directoriesOnly : Bool)
    (directory : String) : Except Fault (List String) := do
  return (← inDirectory t here room base directoriesOnly directory).map (joined directory)

/-- Names that the system follows one by one. -/
def IsPlain (r : List String) : Prop := ∀ n ∈ r, Path.IsName n ∧ '\x00' ∉ n.toList

theorem IsPlain.names {r : List String} (h : IsPlain r) : ∀ n ∈ r, Path.IsName n :=
  fun n hn => (h n hn).1

/-- A text spells a place below the directory of a path. -/
def Spells (p : Path) (s : String) (r : Place) : Prop :=
  IsPlain r ∧ ∃ slash, s = (p.under r).spelled slash

/-- Texts that give places when they are put behind the text of a directory. -/
structure PutsBelow (p : Path) (r : Place) (slash : Bool) (texts : List String) (rs : List Place) :
    Prop where
  heads : ∀ x ∈ texts, x.toList.head? ≠ some '/'
  joined : texts.map (joined ((p.under r).spelled slash)) = rs.map fun x => (p.under x).text

/-- A pattern with wildcards: its last name is taken off and looked for in the directories that the
rest leads to. -/
theorem expandFrom_of_hasMagic {t : FileTree} {here : Place} {directoriesOnly : Bool} (room : Nat)
    {pattern directory last : String} (hmagic : hasMagic pattern = true)
    (hsplit : splitLast pattern = (directory, last)) (hne : directory ≠ "") :
    expandFrom t here (room + 1) pattern directoriesOnly =
      ((if directory ≠ pattern && hasMagic directory then expandFrom t here room directory true
        else .ok [directory]) >>= fun ds =>
          ds.mapM (pathsIn t here (room + 1) last directoriesOnly) >>= fun groups =>
            .ok groups.flatten) := by
  rw [expandFrom, hsplit]
  dsimp only
  rw [if_neg (by simp [hmagic]), if_neg hne]
  split <;> rfl

end Glob

namespace FileTree.Offers

open Glob (IsPlain Spells PutsBelow)

variable {t : FileTree} {p : Path} (h : t.Offers p) {here : Place} {r : Place}
  {directoriesOnly : Bool}

include h

theorem isPlain_of_isSome (hr : (h.branch.entry r).isSome) : IsPlain r := by
  intro n hn
  have hname := h.sound.isFileName hr n (List.mem_append_right _ hn)
  exact ⟨hname.toIsName, hname.nul_free⟩

theorem resolved_under (hr : ∀ n ∈ r, Path.IsName n) : (p.under r).IsResolved where
  root := h.resolved.root
  names := List.forall_mem_append.mpr ⟨h.resolved.names, hr⟩

/-- The normal forms of texts that spell places are the paths of these. -/
theorem map_ofText_of_spells {found : List String} {rs : List Place}
    (hspells : List.Forall₂ (Spells p) found rs) :
    found.map Path.ofText = rs.map p.under := by
  rw [← List.forall₂_eq_eq_eq, List.forall₂_map_left_iff, List.forall₂_map_right_iff]
  refine hspells.imp ?_
  rintro s r ⟨hr, slash, rfl⟩
  exact Path.ofText_spelled (h.resolved_under hr.names).normal slash

theorem nul_free_spelled (hr : IsPlain r) (slash : Bool) :
    '\x00' ∉ ((p.under r).spelled slash).toList := by
  rw [Path.under, Path.mem_spelled h.resolved.root (by decide)]
  rintro ⟨n, hn, hnul⟩
  rcases List.mem_append.mp hn with hn | hn
  · exact (h.sound.isFileName (by rw [h.directory]; rfl) n hn).nul_free hnul
  · exact (hr n hn).2 hnul

theorem joined_spelled (hr : IsPlain r) {n : String} (hn : Path.IsName n) (slash : Bool) :
    Glob.joined ((p.under r).spelled slash) n = (p.under (r ++ [n])).text := by
  refine (Glob.joined_spelled h.resolved.root (h.resolved_under hr.names).normal.parts
    hn.toIsPart slash).trans ?_
  rw [Path.under, Path.under, List.append_assoc]

/-! ### One directory -/

/-- The names in a directory, however it is spelled. -/
theorem names_spelled (hr : IsPlain r) (slash : Bool) :
    Glob.names t here ((p.under r).spelled slash) directoriesOnly =
      .ok (h.branch.namesOf directoriesOnly r) := by
  have hnames {n : String} (hn : n ∈ t.namesIn (p.names ++ r)) :
      (h.branch.entry (r ++ [n])).isSome := (h.branch.mem_names r n).mp hn
  have hshort : t.namesIn (p.under r).names ≠ [] →
      ((p.under r).spelled slash).utf8ByteSize ≤ longestPath := by
    intro hne
    obtain ⟨n, hn⟩ := List.exists_mem_of_ne_nil _ hne
    have hname := (h.branch.isFileName r n (hnames hn)).toIsName
    calc ((p.under r).spelled slash).utf8ByteSize
        ≤ (Glob.joined ((p.under r).spelled slash) n).utf8ByteSize :=
          Glob.utf8ByteSize_le_joined hname.head?_ne (Path.spelled_ne_empty h.resolved.root _ _)
      _ ≤ longestPath := by
          rw [h.joined_spelled hr hname]
          exact h.within _ (hnames hn)
  have hhere : Glob.orHere ((p.under r).spelled slash) = (p.under r).spelled slash :=
    if_neg (Path.spelled_ne_empty h.resolved.root _ _)
  have hnul : ¬((p.under r).spelled slash).toList.contains '\x00' = true := by
    simpa using h.nul_free_spelled hr slash
  rw [Glob.names, if_neg hnul, hhere]
  rcases h.sound.list_spelled (h.resolved_under hr.names) here slash hshort with hlist | ⟨hnil, e, hlist⟩
  · rw [hlist]
    refine congrArg Except.ok (List.filter_congr fun n hn => ?_)
    have hsome := hnames hn
    have hname := (h.branch.isFileName r n hsome).toIsName
    rw [h.joined_spelled hr hname, h.sound.isDirectory_text
      (h.resolved_under (h.isPlain_of_isSome hsome).names) here fun _ => h.within _ hsome]
    rfl
  · rw [hlist]
    change Except.ok [] = Except.ok ((t.namesIn (p.names ++ r)).filter _)
    rw [show t.namesIn (p.names ++ r) = [] from hnil, List.filter_nil]

/-- A name in a directory, and whatever lies below it. -/
theorem named_spelled {room : Nat} {n : String} (hr : IsPlain r) (slash : Bool)
    (hsome : (h.branch.entry (r ++ [n])).isSome)
    (hbelow : FailsJustIf (h.branch.Sinks directoriesOnly room (r ++ [n])) .tooDeep
      (PutsBelow p (r ++ [n]) false · (h.branch.below directoriesOnly room (r ++ [n])))
      (Glob.below t here directoriesOnly room ((p.under (r ++ [n])).spelled false))) :
    FailsJustIf (h.branch.Sinks directoriesOnly room (r ++ [n])) .tooDeep
      (PutsBelow p r slash · ((r ++ [n]) :: h.branch.below directoriesOnly room (r ++ [n])))
      (do
        let deeper ← Glob.below t here directoriesOnly room
          (Glob.joined ((p.under r).spelled slash) n)
        return n :: deeper.map (Glob.joined n)) := by
  have hname := (h.isPlain_of_isSome hsome n (by simp)).1
  have hjoined := h.joined_spelled hr hname slash
  rw [Path.spelled_false, ← hjoined] at hbelow
  refine hbelow.map fun l ⟨hheads, hmap⟩ => ⟨?_, ?_⟩
  · refine List.forall_mem_cons.mpr ⟨hname.head?_ne, fun x hx => ?_⟩
    obtain ⟨y, hy, rfl⟩ := List.mem_map.mp hx
    exact Glob.head?_joined_name hname.toIsPart (hheads y hy)
  · rw [Path.spelled_false, ← hjoined] at hmap
    rw [List.map_cons, List.map_cons, hjoined, ← hmap, List.map_map]
    refine congrArg _ (List.map_congr_left fun y hy => ?_)
    exact Glob.joined_assoc (Path.spelled_ne_empty h.resolved.root _ _) hname.toIsPart (hheads y hy)

variable (here directoriesOnly) in
/-- What lies below a directory, as texts to be put behind its own. -/
theorem below_spelled (room : Nat) (hr : IsPlain r) (slash : Bool) :
    FailsJustIf (h.branch.Sinks directoriesOnly room r) .tooDeep
      (PutsBelow p r slash · (h.branch.below directoriesOnly room r))
      (Glob.below t here directoriesOnly room ((p.under r).spelled slash)) := by
  induction room generalizing r slash with
  | zero => exact .inr ⟨.inl rfl, rfl⟩
  | succ room ih =>
    have hsome {n : String}
        (hn : n ∈ (h.branch.namesOf directoriesOnly r).filter (!Glob.isHidden ·)) :
        (h.branch.entry (r ++ [n])).isSome := (Branch.mem_namesOf.mp (List.mem_filter.mp hn).1).1
    rw [Glob.below, h.names_spelled hr]
    refine (FailsJustIf.map (.mapM (List.forall₂_same.mpr fun n hn =>
      h.named_spelled hr slash (hsome hn) (ih (h.isPlain_of_isSome (hsome hn)) false)))
      fun groups hgroups => ⟨?_, ?_⟩).congr Branch.sinks_succ_iff.symm
    · intro x hx
      obtain ⟨g, hg, hx⟩ := List.mem_flatten.mp hx
      obtain ⟨n, -, hg⟩ := exists_of_forall₂ hgroups hg
      exact hg.heads x hx
    · rw [Branch.below, List.map_flatMap]
      exact map_flatten_of_forall₂ (hgroups.imp fun _ _ hg => hg.joined)

/-- Whether something is there, where a path may hold a NUL. -/
theorem isThere_text (hr : ∀ n ∈ r, Path.IsName n) :
    Glob.isThere t here (p.under r).text = (h.branch.entry r).isSome := by
  have hexists := h.sound.exists?_text (h.resolved_under hr) here (h.within r)
  rw [Glob.isThere, hexists]
  by_cases hnul : '\x00' ∈ (p.under r).text.toList
  · have hnone : ¬(h.branch.entry r).isSome := fun hsome =>
      h.nul_free_spelled (h.isPlain_of_isSome hsome) false hnul
    rw [Bool.not_eq_true] at hnone
    rw [hnone, List.contains_iff_mem.mpr hnul]
    rfl
  · rw [show (p.under r).text.toList.contains '\x00' = false by simpa using hnul]
    rfl

variable (here directoriesOnly) in
/-- **One name of a pattern**, from a directory however it is spelled. -/
theorem step_spelled (room : Nat) (hr : IsPlain r) (slash : Bool) {n : String} (hn : Path.IsName n) :
    FailsJustIf (Glob.isRecursive n = true ∧ h.branch.Sinks directoriesOnly room r) .tooDeep
      (fun l => List.Forall₂ (Spells p) (l.map (Glob.joined ((p.under r).spelled slash)))
        (h.branch.step directoriesOnly n r))
      (Glob.inDirectory t here room n directoriesOnly ((p.under r).spelled slash)) := by
  have hjoined {n : String} (hn : Path.IsName n) := h.joined_spelled hr hn slash
  have hspells {n : String} (hsome : (h.branch.entry (r ++ [n])).isSome) :
      Spells p (Glob.joined ((p.under r).spelled slash) n) (r ++ [n]) := by
    have hplain := h.isPlain_of_isSome hsome
    exact ⟨hplain, false, hjoined (hplain.names n (by simp))⟩
  rw [Glob.inDirectory, Branch.step]
  by_cases hmagic : Glob.hasMagic n = true
  · have hwild : ¬(!Glob.hasMagic n) = true := by simp [hmagic]
    rw [if_neg hwild, if_neg hwild]
    by_cases hdeep : Glob.isRecursive n = true
    · rw [if_pos hdeep, if_pos hdeep]
      have hbelow := h.below_spelled here directoriesOnly room hr slash
      refine (?_ : FailsJustIf (h.branch.Sinks directoriesOnly room r) _ _ _).congr
        (and_iff_right hdeep).symm
      rcases hbelow with ⟨hroom, l, hl, -, hmap⟩ | ⟨hsinks, hbelow⟩
      · refine .inl ⟨hroom, "" :: l, by rw [Glob.descendants, hl]; rfl, ?_⟩
        dsimp only
        rw [List.map_cons, hmap, Branch.below_eq hroom]
        refine .cons ⟨hr, true, Glob.joined_spelled_empty h.resolved.root _ _⟩ ?_
        rw [List.forall₂_map_left_iff, List.forall₂_same]
        intro x hx
        obtain ⟨g, rfl, -, -, -, hsome, -⟩ := Branch.mem_below.mp hx
        exact ⟨h.isPlain_of_isSome hsome, false, rfl⟩
      · exact .inr ⟨hsinks, by rw [Glob.descendants, hbelow]; rfl⟩
    · rw [if_neg hdeep, if_neg hdeep, Glob.matching, h.names_spelled hr]
      refine (FailsJustIf.ok ?_).congr (iff_of_false not_false fun hsinks => hdeep hsinks.1)
      rw [List.forall₂_map_left_iff, List.forall₂_map_right_iff, List.forall₂_same]
      intro m hm
      exact hspells (Branch.mem_namesOf.mp (List.mem_filter.mp hm).1).1
  · have hplain : (!Glob.hasMagic n) = true := by simpa using hmagic
    have hshallow : ¬(Glob.isRecursive n = true ∧ h.branch.Sinks directoriesOnly room r) :=
      fun hsinks => hmagic (Glob.hasMagic_of_isRecursive hsinks.1)
    rw [if_pos hplain, if_pos hplain]
    refine (FailsJustIf.ok ?_).congr (iff_of_false not_false hshallow)
    rw [Glob.plain, if_neg hn.ne_empty, hjoined hn, h.isThere_text]
    · split
      · rename_i hsome
        exact .cons (hspells hsome) .nil
      · exact .nil
    · exact List.forall_mem_append.mpr ⟨hr.names, List.forall_mem_singleton.mpr hn⟩

/-! ### Whole patterns -/

variable (here directoriesOnly) in
/-- Several directories, one name each. -/
theorem steps_spelled (room : Nat) {n : String} (hn : Path.IsName n) {ds : List String}
    {rs : List Place} (hds : List.Forall₂ (Spells p) ds rs) :
    FailsJustIf (∃ r ∈ rs, Glob.isRecursive n = true ∧ h.branch.Sinks directoriesOnly room r) .tooDeep
      (fun found => List.Forall₂ (Spells p) found (rs.flatMap (h.branch.step directoriesOnly n)))
      (ds.mapM (Glob.pathsIn t here room n directoriesOnly) >>= fun groups => .ok groups.flatten) := by
  have hall : List.Forall₂ (fun d r => FailsJustIf
      (Glob.isRecursive n = true ∧ h.branch.Sinks directoriesOnly room r) .tooDeep
      (fun found => List.Forall₂ (Spells p) found (h.branch.step directoriesOnly n r))
      (Glob.pathsIn t here room n directoriesOnly d)) ds rs := by
    refine hds.imp fun d r hd => ?_
    obtain ⟨hr, slash, rfl⟩ := hd
    exact (h.step_spelled here directoriesOnly room hr slash hn).map fun l hl => hl
  refine (FailsJustIf.mapM hall).map fun groups hgroups => ?_
  rw [List.flatMap_def]
  exact List.rel_flatten (List.forall₂_map_right_iff.mpr hgroups.flip)

variable {l ms : List String} {m n : String} {room : Nat}

/-- The last name of a pattern is taken off, and the directories are found first. -/
theorem expandFrom_step (room : Nat) {q : List String} (hq : ∀ n ∈ q, Path.IsName n)
    (hn : Path.IsName n) (hmagic : Glob.hasMagic (p.under (q ++ [n])).text = true) :
    Glob.expandFrom t here (room + 1) (p.under (q ++ [n])).text directoriesOnly =
      ((if Glob.hasMagic (p.under q).text then Glob.expandFrom t here room (p.under q).text true
        else .ok [(p.under q).text]) >>= fun ds =>
          ds.mapM (Glob.pathsIn t here (room + 1) n directoriesOnly) >>= fun groups =>
            .ok groups.flatten) := by
  have hsplit : Glob.splitLast (p.under (q ++ [n])).text = ((p.under q).text, n) := by
    rw [Path.under, ← List.append_assoc]
    exact Glob.splitLast_text h.resolved.root (h.resolved_under hq).normal.parts hn.toIsPart
  have hne : (p.under q).text ≠ (p.under (q ++ [n])).text := by
    intro heq
    have hpath := congrArg Path.ofText heq
    rw [Path.ofText_text (h.resolved_under hq).normal,
      Path.ofText_text (h.resolved_under _).normal] at hpath
    · simpa [Path.under] using congrArg (List.length ∘ Path.names) hpath
    · exact List.forall_mem_append.mpr ⟨hq, List.forall_mem_singleton.mpr hn⟩
  rw [Glob.expandFrom_of_hasMagic room hmagic hsplit (Path.text_ne_empty h.resolved.root _)]
  simp only [hne, ne_eq, not_false_eq_true, decide_true, Bool.true_and]

/-- No wildcard can be looked for in a directory whose path holds a NUL. -/
theorem pathsIn_eq_error (room : Nat) (hnul : ∃ n ∈ l, '\x00' ∈ n.toList)
    (hm : Glob.hasMagic m = true) :
    Glob.pathsIn t here (room + 1) m directoriesOnly (p.under l).text = .error .nulInPath := by
  have hmem : (p.under l).text.toList.contains '\x00' = true := by
    obtain ⟨n, hn, hnul⟩ := hnul
    rw [List.contains_iff_mem, Path.under, Path.mem_text h.resolved.root (by decide)]
    exact ⟨n, List.mem_append_right _ hn, hnul⟩
  have hnames (d : Bool) : Glob.names t here (p.under l).text d = .error .nulInPath := if_pos hmem
  rw [Glob.pathsIn, Glob.inDirectory, if_neg (by simp [hm])]
  split
  · rw [Glob.descendants, Glob.below, hnames]
    rfl
  · rw [Glob.matching, hnames]
    rfl

variable (hbase : ∀ n ∈ p.names, Glob.hasMagic n = false)

include hbase

theorem hasMagic_text : Glob.hasMagic (p.under r).text = true ↔ ∃ n ∈ r, Glob.hasMagic n = true := by
  rw [Glob.hasMagic_text (p.under r) h.resolved.root]
  constructor
  · rintro ⟨n, hn, hmagic⟩
    rcases List.mem_append.mp hn with hn | hn
    · rw [hbase n hn] at hmagic
      cases hmagic
    · exact ⟨n, hn, hmagic⟩
  · rintro ⟨n, hn, hmagic⟩
    exact ⟨n, List.mem_append_right _ hn, hmagic⟩

theorem hasMagic_literal (hliteral : ∀ n ∈ l, Glob.hasMagic n = false) :
    Glob.hasMagic (p.under l).text = false := by
  rw [Bool.eq_false_iff, ne_eq, h.hasMagic_text hbase]
  rintro ⟨n, hn, hmagic⟩
  rw [hliteral n hn] at hmagic
  cases hmagic

theorem hasMagic_of_wildcard (hm : Glob.hasMagic m = true) (ns : List String) :
    Glob.hasMagic (p.under (l ++ m :: ns)).text = true := by
  rw [h.hasMagic_text hbase]
  exact ⟨m, by simp, hm⟩

/-- The first wildcard is looked for in the directory before it. -/
theorem expandFrom_first (room : Nat) (hl : ∀ n ∈ l, Path.IsName n)
    (hliteral : ∀ n ∈ l, Glob.hasMagic n = false) (hmname : Path.IsName m)
    (hm : Glob.hasMagic m = true) :
    Glob.expandFrom t here (room + 1) (p.under (l ++ [m])).text directoriesOnly =
      ([(p.under l).text].mapM (Glob.pathsIn t here (room + 1) m directoriesOnly) >>= fun groups =>
        .ok groups.flatten) := by
  rw [h.expandFrom_step room hl hmname (h.hasMagic_of_wildcard hbase hm []),
    if_neg (by simp [h.hasMagic_literal hbase hliteral])]
  rfl

/-- A name behind it is looked for in the directories found. -/
theorem expandFrom_next (room : Nat) (hlms : ∀ n ∈ l ++ m :: ms, Path.IsName n)
    (hm : Glob.hasMagic m = true) (hn : Path.IsName n) :
    Glob.expandFrom t here (room + 1) (p.under (l ++ m :: (ms ++ [n]))).text directoriesOnly =
      (Glob.expandFrom t here room (p.under (l ++ m :: ms)).text true >>= fun ds =>
        ds.mapM (Glob.pathsIn t here (room + 1) n directoriesOnly) >>= fun groups =>
          .ok groups.flatten) := by
  have hmagic := h.hasMagic_of_wildcard hbase (l := l) hm (ms ++ [n])
  rw [show l ++ m :: (ms ++ [n]) = l ++ m :: ms ++ [n] by simp] at hmagic ⊢
  rw [h.expandFrom_step room hlms hn hmagic, if_pos (h.hasMagic_of_wildcard hbase hm ms)]

variable (here directoriesOnly) in
/-- **A pattern leads from the names before its first wildcard** to the places that it reaches, as far
as there is room. -/
theorem expandFrom_reached (room : Nat) (hl : IsPlain l)
    (hliteral : ∀ n ∈ l, Glob.hasMagic n = false) (hm : Glob.hasMagic m = true)
    (hms : ∀ n ∈ m :: ms, Path.IsName n) :
    FailsJustIf (h.branch.Exceeds room directoriesOnly (m :: ms) l) .tooDeep
      (fun found => List.Forall₂ (Spells p) found (h.branch.reached directoriesOnly (m :: ms) l))
      (Glob.expandFrom t here room (p.under (l ++ m :: ms)).text directoriesOnly) := by
  induction ms using List.reverseRecOn generalizing room directoriesOnly with
  | nil =>
    have hmname := List.forall_mem_singleton.mp hms
    cases room with
    | zero => exact .inr ⟨.inl Nat.zero_lt_one, rfl⟩
    | succ room =>
      have hhere : List.Forall₂ (Spells p) [(p.under l).text] [l] := .cons ⟨hl, false, rfl⟩ .nil
      have hfound := h.steps_spelled here directoriesOnly (room + 1) hmname hhere
      rw [← h.expandFrom_first hbase room hl.names hliteral hmname hm] at hfound
      rw [show [m] = [] ++ [m] from rfl, Branch.reached_append_singleton]
      refine hfound.congr ?_
      rw [Branch.exceeds_append_singleton, or_iff_right Branch.not_exceeds_nil, Branch.reached]
  | append_singleton ms n ih =>
    cases room with
    | zero => exact .inr ⟨.inl (Nat.zero_lt_succ _), rfl⟩
    | succ room =>
      rw [← List.cons_append, List.forall_mem_append] at hms
      obtain ⟨hms, hn⟩ := hms
      have hn := List.forall_mem_singleton.mp hn
      have hfound := (ih true room hms).bind fun ds hds =>
        h.steps_spelled here directoriesOnly (room + 1) hn hds
      rw [← h.expandFrom_next hbase room (List.forall_mem_append.mpr ⟨hl.names, hms⟩) hm hn] at hfound
      rw [← List.cons_append, Branch.reached_append_singleton, Branch.exceeds_append_singleton]
      exact hfound

variable (here directoriesOnly) in
/-- A NUL before the first wildcard makes the listing of the directory fail, if the names of the
pattern leave room for it. -/
theorem expandFrom_eq_error (room : Nat) (hl : ∀ n ∈ l, Path.IsName n)
    (hliteral : ∀ n ∈ l, Glob.hasMagic n = false) (hnul : ∃ n ∈ l, '\x00' ∈ n.toList)
    (hm : Glob.hasMagic m = true) (hms : ∀ n ∈ m :: ms, Path.IsName n) :
    Glob.expandFrom t here room (p.under (l ++ m :: ms)).text directoriesOnly =
      .error (if room < (m :: ms).length then .tooDeep else .nulInPath) := by
  induction ms using List.reverseRecOn generalizing room directoriesOnly with
  | nil =>
    cases room with
    | zero => rfl
    | succ room =>
      rw [h.expandFrom_first hbase room hl hliteral (List.forall_mem_singleton.mp hms) hm,
        List.mapM_cons, h.pathsIn_eq_error room hnul hm, if_neg (by simp)]
      rfl
  | append_singleton ms n ih =>
    cases room with
    | zero => rw [if_pos (by simp)]; rfl
    | succ room =>
      rw [← List.cons_append, List.forall_mem_append] at hms
      obtain ⟨hms, hn⟩ := hms
      have hlength : room + 1 < (m :: (ms ++ [n])).length ↔ room < (m :: ms).length := by simp
      rw [h.expandFrom_next hbase room (List.forall_mem_append.mpr ⟨hl, hms⟩) hm
        (List.forall_mem_singleton.mp hn), ih true room hms, if_congr hlength rfl rfl]
      rfl

/-- Without wildcards a pattern is a path, and is found if it leads anywhere. -/
theorem expandFrom_literal (hl : ∀ n ∈ l, Path.IsName n)
    (hliteral : ∀ n ∈ l, Glob.hasMagic n = false) (room : Nat) :
    Glob.expandFrom t here (room + 1) (p.under l).text directoriesOnly =
      .ok (if (h.branch.entry l).isSome then [(p.under l).text] else []) := by
  have hnone := h.hasMagic_literal hbase hliteral
  have hresolved := h.resolved_under hl
  rw [Glob.expandFrom]
  rcases List.eq_nil_or_concat (p.under l).names with hroot | ⟨names, n, hnames⟩
  · have hsplit : Glob.splitLast (p.under l).text = ((p.under l).text, "") := by
      rw [show p.under l = ⟨p.root, []⟩ from Path.ext rfl hroot, Path.text_root h.resolved.root]
      rcases h.resolved.root with hr | hr <;> (rw [hr]; rfl)
    have hdirectory : h.branch.entry l = some .directory := by
      change t.get? (p.under l).names = _
      rw [hroot]
      rfl
    have hthere : Glob.isDirectoryThere t here (p.under l).text = true := by
      have hnul := h.nul_free_spelled (h.isPlain_of_isSome (r := l) (by rw [hdirectory]; rfl)) false
      rw [Path.spelled_false] at hnul
      rw [Glob.isDirectoryThere, h.sound.isDirectory_text hresolved here (h.within l)]
      rw [show t.get? (p.under l).names = some .directory from hdirectory]
      simp [hnul]
    rw [hsplit]
    dsimp only
    rw [if_pos (by simp [hnone]), if_pos rfl, if_pos hthere, hdirectory]
    rfl
  · rw [List.concat_eq_append] at hnames
    have hname : Path.IsName n := hresolved.names n (by rw [hnames]; simp)
    have hsplit : (Glob.splitLast (p.under l).text).2 = n := by
      rw [show p.under l = ⟨p.root, names ++ [n]⟩ from Path.ext rfl hnames,
        Glob.splitLast_text h.resolved.root _ hname.toIsPart]
      exact fun m hm => hresolved.normal.parts m (by rw [hnames]; exact List.mem_append_left _ hm)
    dsimp only
    rw [if_pos (by simp [hnone]), hsplit, if_neg hname.ne_empty, h.isThere_text hl]
    rfl

end FileTree.Offers

/-! ### Patterns taken from a directory -/

theorem Glob.expand_text (path : Path) (h : Path.IsRoot path.root) (t : FileTree) (here : Place) :
    expand t here path.text = expandFrom t here nestingLimit path.text false := by
  have hhead : path.text.toList.head? = some '/' := Path.head?_text h path.names
  obtain ⟨cs, hcs⟩ : ∃ cs, path.text.toList = '/' :: cs := by
    cases htext : path.text.toList with
    | nil =>
      rw [htext] at hhead
      cases hhead
    | cons c cs =>
      rw [htext] at hhead
      cases hhead
      exact ⟨cs, rfl⟩
  rw [expand, hcs]
  cases expandFrom t here nestingLimit path.text false with
  | error e => rfl
  | ok found =>
    have hne : path.text ≠ "" := Path.text_ne_empty h path.names
    dsimp only [bind, Except.bind]
    rw [if_neg (by simp [hne])]
    rfl

namespace FileTree.Offers

variable {t : FileTree} {p : Path} (h : t.Offers p) (here : Place) {ps : List String}
  (hbase : ∀ n ∈ p.names, Glob.hasMagic n = false) (hps : ∀ n ∈ ps, Path.IsName n)

include h hbase hps

/-- **What a pattern without wildcards finds**, taken from a directory. -/
theorem expand_literal (hwild : Glob.wildcards ps = []) :
    Glob.expand t here (p.under ps).text =
      .ok (if (h.branch.entry ps).isSome then [(p.under ps).text] else []) := by
  have hall := Glob.literal_append_wildcards ps
  rw [hwild, List.append_nil] at hall
  rw [Glob.expand_text (p.under ps) h.resolved.root]
  refine h.expandFrom_literal hbase hps (fun n hn => ?_) _
  rw [← hall] at hn
  exact Glob.hasMagic_of_mem_literal hn

/-- **What a pattern with wildcards finds**, taken from a directory. -/
theorem expand_wildcards (hwild : Glob.wildcards ps ≠ []) :
    ((∃ n ∈ Glob.literal ps, '\x00' ∈ n.toList) ∧ Glob.expand t here (p.under ps).text =
      .error (if nestingLimit < (Glob.wildcards ps).length then .tooDeep else .nulInPath)) ∨
    (Glob.IsPlain (Glob.literal ps) ∧
      FailsJustIf (h.branch.Exceeds nestingLimit false (Glob.wildcards ps) (Glob.literal ps)) .tooDeep
        (fun found => List.Forall₂ (Glob.Spells p) found
          (h.branch.reached false (Glob.wildcards ps) (Glob.literal ps)))
        (Glob.expand t here (p.under ps).text)) := by
  obtain ⟨m, ms, hms⟩ := List.exists_cons_of_ne_nil hwild
  have hsplit := Glob.literal_append_wildcards ps
  have hmagic : Glob.hasMagic m = true := by
    have hstop := List.head?_dropWhile_not (fun n => !Glob.hasMagic n) ps
    rw [← Glob.wildcards, hms] at hstop
    simpa using hstop
  have hnames := hps
  rw [hms] at hsplit ⊢
  rw [← hsplit, List.forall_mem_append] at hnames
  rw [Glob.expand_text (p.under ps) h.resolved.root]
  by_cases hnul : ∃ n ∈ Glob.literal ps, '\x00' ∈ n.toList
  · have herror := h.expandFrom_eq_error here false hbase nestingLimit hnames.1
      (fun n hn => Glob.hasMagic_of_mem_literal hn) hnul hmagic hnames.2
    rw [hsplit] at herror
    exact .inl ⟨hnul, herror⟩
  · have hplain : Glob.IsPlain (Glob.literal ps) := fun n hn =>
      ⟨hnames.1 n hn, fun hmem => hnul ⟨n, hn, hmem⟩⟩
    have hfound := h.expandFrom_reached here false hbase nestingLimit hplain
      (fun n hn => Glob.hasMagic_of_mem_literal hn) hmagic hnames.2
    rw [hsplit] at hfound
    exact .inr ⟨hplain, hfound⟩

end FileTree.Offers

end StepFlow
