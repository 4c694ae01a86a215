import StepFlow.Proofs.Files.Branch
import Mathlib.Data.List.Perm.Basic

/-!
# What wildcards stand for

A pattern leads from a directory, name by name, to places below it. Only the last name may lead to a
file by a wildcard; a plain name may do so anywhere, and a file stays where it is if `**` follows. So
it depends on the names alone whether a file that exists is found: `Glob.Matches` tells it.

The system lists directories in an order of its own. Two directories with the same tree below them
give the same places, in different orders.

## Main definitions

* `NamePattern.Denotes` — the texts that a pattern for names stands for
* `Glob.Matches` — the paths to files that a pattern stands for
* `Branch.below`, `Branch.step`, `Branch.reached` — the places to which a pattern leads
* `Branch.Exceeds` — a pattern takes more room than there is

## Main results

* `NamePattern.accepts_iff` — a name is accepted just if the pattern stands for it
* `Branch.mem_below_iff` — what lies below a place
* `Branch.mem_reached_iff` — a pattern leads to a file just if it matches the path to it
* `Branch.Same.reached_perm`, `Branch.Same.exceeds_iff` — the places depend on the tree only, and so
  does the room that a pattern takes
-/

namespace StepFlow

/-! ### Names -/

namespace NamePattern

/-- The texts that a pattern stands for. -/
inductive Denotes : NamePattern → List Char → Prop
  | nil : Denotes [] []
  | any {p : NamePattern} {cs : List Char} (ds : List Char) :
      Denotes p cs → Denotes (.any :: p) (ds ++ cs)
  | one {i : NameItem} {p : NamePattern} {c : Char} {cs : List Char} :
      i ≠ .any → i.takes c = true → Denotes p cs → Denotes (i :: p) (c :: cs)

/-- Remainders of one text, the longest first. -/
def Nested (rs : Remainders) : Prop := rs.Pairwise fun r s => s <:+ r

theorem mem_endings {cs r : List Char} : r ∈ endings cs ↔ r <:+ cs := by
  induction cs with
  | nil => rw [endings, List.mem_singleton, List.suffix_nil]
  | cons c cs ih => rw [endings, List.mem_cons, ih, List.suffix_cons_iff]

theorem nested_endings (cs : List Char) : Nested (endings cs) := by
  induction cs with
  | nil => exact List.pairwise_singleton _ _
  | cons c cs ih =>
    refine List.pairwise_cons.mpr ⟨fun r hr => ?_, ih⟩
    exact (mem_endings.mp hr).trans (List.suffix_cons c cs)

/-- What remains of a text once its first character has been taken. -/
def taken (i : NameItem) : List Char → Option (List Char)
  | c :: cs => if i.takes c then some cs else none
  | [] => none

theorem taken_eq_some_iff {i : NameItem} {r s : List Char} :
    taken i r = some s ↔ ∃ c, i.takes c = true ∧ r = c :: s := by
  cases r with
  | nil => exact iff_of_false nofun (by rintro ⟨c, -, h⟩; cases h)
  | cons c cs =>
    rw [taken]
    constructor
    · intro h
      split at h
      · cases h
        exact ⟨c, ‹_›, rfl⟩
      · cases h
    · rintro ⟨d, hd, h⟩
      cases h
      rw [if_pos hd]

theorem pass_of_ne {i : NameItem} (hi : i ≠ .any) (rs : Remainders) :
    pass rs i = rs.filterMap (taken i) := by
  cases i with
  | any => exact absurd rfl hi
  | _ => rfl

theorem nested_pass {rs : Remainders} (h : Nested rs) (i : NameItem) : Nested (pass rs i) := by
  by_cases hi : i = .any
  · subst hi
    cases rs with
    | nil => exact .nil
    | cons r rs => exact nested_endings r
  · rw [pass_of_ne hi]
    refine List.Pairwise.filterMap _ (fun r s hsr r' hr' s' hs' => ?_) h
    obtain ⟨c, -, rfl⟩ := taken_eq_some_iff.mp hr'
    obtain ⟨d, -, rfl⟩ := taken_eq_some_iff.mp hs'
    rcases List.suffix_cons_iff.mp hsr with heq | hsuffix
    · cases heq
      exact List.suffix_rfl
    · exact (List.suffix_cons d s').trans hsuffix

/-- One item less of the pattern, one step further in the text. -/
theorem exists_denotes_pass {rs : Remainders} (h : Nested rs) (i : NameItem) (p : NamePattern) :
    (∃ r ∈ pass rs i, Denotes p r) ↔ ∃ r ∈ rs, Denotes (i :: p) r := by
  by_cases hi : i = .any
  · subst hi
    cases rs with
    | nil => exact iff_of_false (by simp [pass]) (by simp)
    | cons r rs =>
      change (∃ s ∈ endings r, Denotes p s) ↔ _
      constructor
      · rintro ⟨s, hs, hp⟩
        obtain ⟨ds, rfl⟩ := mem_endings.mp hs
        exact ⟨_, List.mem_cons_self, .any ds hp⟩
      · rintro ⟨s, hs, hp⟩
        have hsuffix : s <:+ r := by
          rcases List.mem_cons.mp hs with rfl | hs
          · exact List.suffix_rfl
          · exact (List.pairwise_cons.mp h).1 s hs
        cases hp with
        | any ds hp => exact ⟨_, mem_endings.mpr ((List.suffix_append _ _).trans hsuffix), hp⟩
        | one hi => exact absurd rfl hi
  · rw [pass_of_ne hi]
    constructor
    · rintro ⟨s, hs, hp⟩
      obtain ⟨r, hr, htaken⟩ := List.mem_filterMap.mp hs
      obtain ⟨c, hc, rfl⟩ := taken_eq_some_iff.mp htaken
      exact ⟨_, hr, .one hi hc hp⟩
    · rintro ⟨r, hr, hp⟩
      cases hp with
      | any => exact absurd rfl hi
      | one _ hc hp =>
        exact ⟨_, List.mem_filterMap.mpr ⟨_, hr, taken_eq_some_iff.mpr ⟨_, hc, rfl⟩⟩, hp⟩

theorem denotes_nil_iff {cs : List Char} : Denotes [] cs ↔ cs = [] := by
  constructor
  · rintro ⟨⟩
    rfl
  · rintro rfl
    exact .nil

/-- **A text is accepted just if the pattern stands for it.** -/
theorem accepts_iff (p : NamePattern) (cs : List Char) : p.accepts cs = true ↔ Denotes p cs := by
  have hpasses (rs : Remainders) (h : Nested rs) :
      (p.foldl pass rs).any List.isEmpty = true ↔ ∃ r ∈ rs, Denotes p r := by
    induction p generalizing rs with
    | nil => simp [denotes_nil_iff]
    | cons i p ih => rw [List.foldl_cons, ih _ (nested_pass h i), exists_denotes_pass h]
  rw [accepts, hpasses _ (List.pairwise_singleton _ _)]
  simp

end NamePattern

/-! ### Paths -/

namespace Glob

/-- A name that a pattern with wildcards stands for. -/
def Accepts (pattern name : String) : Prop :=
  (isHidden pattern = true ∨ isHidden name = false) ∧
    (NamePattern.ofText pattern.toList).Denotes name.toList

/-- The paths to files that a pattern stands for, name by name. Where a pattern goes on behind a
wildcard, the name found is a directory, and so the path goes on, too. -/
inductive Matches : List String → List String → Prop
  | done : Matches [] []
  | plain {p : String} {ps ns : List String} :
      hasMagic p = false → Matches ps ns → Matches (p :: ps) (p :: ns)
  | wild {p n : String} {ps ns : List String} :
      hasMagic p = true → isRecursive p = false → Accepts p n → (ps = [] ∨ ns ≠ []) →
        Matches ps ns → Matches (p :: ps) (n :: ns)
  | deep {p : String} {ps ns : List String} (ds : List String) :
      isRecursive p = true → (∀ d ∈ ds, isHidden d = false) → (ds = [] ∨ ps = [] ∨ ns ≠ []) →
        Matches ps ns → Matches (p :: ps) (ds ++ ns)

theorem isRecursive_iff {p : String} : isRecursive p = true ↔ p = "**" := decide_eq_true_iff

theorem hasMagic_of_isRecursive {p : String} (h : isRecursive p = true) : hasMagic p = true := by
  rw [isRecursive_iff.mp h]
  rfl

end Glob

namespace Branch

open Glob

variable (b : Branch)

/-- Where only directories are asked for, other things do not count. -/
def admits (directoriesOnly : Bool) (r : Place) : Bool :=
  !directoriesOnly || b.entry r = some .directory

/-- The names in a directory, or those of directories in it. -/
def namesOf (directoriesOnly : Bool) (r : Place) : List String :=
  (b.names r).filter fun n => b.admits directoriesOnly (r ++ [n])

/-- The places below a place, hidden ones left out, to a depth. -/
def below (directoriesOnly : Bool) : (depth : Nat) → Place → List Place
  | 0, _ => []
  | depth + 1, r => ((b.namesOf directoriesOnly r).filter (!isHidden ·)).flatMap fun n =>
      (r ++ [n]) :: below directoriesOnly depth (r ++ [n])

/-- The places to which one name of a pattern leads from a place. -/
def step (directoriesOnly : Bool) (p : String) (r : Place) : List Place :=
  if !hasMagic p then if (b.entry (r ++ [p])).isSome then [r ++ [p]] else []
  else if isRecursive p then r :: b.below directoriesOnly b.height r
  else ((b.namesOf directoriesOnly r).filter fun n => (isHidden p || !isHidden n) &&
    (NamePattern.ofText p.toList).accepts n.toList).map (r ++ [·])

/-- The places to which a pattern leads from a place. All but the last name lead to directories, as
far as wildcards are concerned. -/
def reached (directoriesOnly : Bool) : List String → Place → List Place
  | [], r => [r]
  | p :: ps, r =>
    (b.step (directoriesOnly || !ps.isEmpty) p r).flatMap (reached directoriesOnly ps)

/-- Things lie below a place as deep as there is room to follow. -/
def Sinks (directoriesOnly : Bool) (room : Nat) (r : Place) : Prop :=
  room = 0 ∨ ∃ g : Place, g.length = room ∧ (∀ n ∈ g, isHidden n = false) ∧
    (b.entry (r ++ g)).isSome ∧ b.admits directoriesOnly (r ++ g) = true

/-- A pattern that leads from a place takes more room than there is: it has too many names itself, or
`**` goes on too deep, with what the names behind it leave. -/
def Exceeds (room : Nat) (directoriesOnly : Bool) (ps : List String) (r : Place) : Prop :=
  room < ps.length ∨ ∃ before p after, ps = before ++ p :: after ∧ isRecursive p = true ∧
    ∃ x ∈ b.reached true before r,
      b.Sinks (directoriesOnly || !after.isEmpty) (room - after.length) x

variable {b} {directoriesOnly : Bool} {p n : String} {ps : List String} {r x : Place}

theorem mem_namesOf : n ∈ b.namesOf directoriesOnly r ↔
    (b.entry (r ++ [n])).isSome ∧ b.admits directoriesOnly (r ++ [n]) = true := by
  rw [namesOf, List.mem_filter, b.mem_names]

theorem directory_of_isSome_append {g : Place} (hg : g ≠ []) (h : (b.entry (r ++ g)).isSome) :
    b.entry r = some .directory :=
  StepFlow.directory_of_isSome_append b.directory_of_isSome hg h

theorem mem_below {depth : Nat} : x ∈ b.below directoriesOnly depth r ↔
    ∃ g, x = r ++ g ∧ g ≠ [] ∧ g.length ≤ depth ∧ (∀ n ∈ g, isHidden n = false) ∧
      (b.entry x).isSome ∧ b.admits directoriesOnly x = true := by
  induction depth generalizing r x with
  | zero =>
    refine iff_of_false (by simp [below]) ?_
    rintro ⟨g, -, hg, hlength, -⟩
    exact hg (List.length_eq_zero_iff.mp (Nat.le_zero.mp hlength))
  | succ depth ih =>
    rw [below, List.mem_flatMap]
    constructor
    · rintro ⟨n, hn, hx⟩
      obtain ⟨hn, hvisible⟩ := List.mem_filter.mp hn
      obtain ⟨hsome, hadmits⟩ := mem_namesOf.mp hn
      have hvisible : isHidden n = false := by simpa using hvisible
      rcases List.mem_cons.mp hx with rfl | hx
      · exact ⟨[n], rfl, List.cons_ne_nil _ _, by simp, by simpa using hvisible, hsome, hadmits⟩
      · obtain ⟨g, rfl, -, hlength, hg, hrest⟩ := ih.mp hx
        refine ⟨n :: g, by simp, List.cons_ne_nil _ _, ?_, ?_, hrest⟩
        · rw [List.length_cons]
          omega
        · exact List.forall_mem_cons.mpr ⟨hvisible, hg⟩
    · rintro ⟨g, rfl, hg, hlength, hvisible, hsome, hadmits⟩
      obtain ⟨n, g, rfl⟩ := List.exists_cons_of_ne_nil hg
      obtain ⟨hn, hvisible⟩ := List.forall_mem_cons.mp hvisible
      rw [show r ++ n :: g = r ++ [n] ++ g by simp] at hsome hadmits ⊢
      by_cases hlast : g = []
      · subst hlast
        rw [List.append_nil] at hsome hadmits ⊢
        exact ⟨n, List.mem_filter.mpr ⟨mem_namesOf.mpr ⟨hsome, hadmits⟩, by simpa using hn⟩,
          List.mem_cons_self⟩
      · have hdirectory := directory_of_isSome_append hlast hsome
        refine ⟨n, List.mem_filter.mpr ⟨mem_namesOf.mpr ⟨by rw [hdirectory]; rfl, ?_⟩, ?_⟩, ?_⟩
        · simp [admits, hdirectory]
        · simpa using hn
        · refine List.mem_cons_of_mem _ (ih.mpr ⟨g, rfl, hlast, ?_, hvisible, hsome, hadmits⟩)
          rw [List.length_cons] at hlength
          omega

/-- **What lies below a place.** -/
theorem mem_below_iff : x ∈ b.below directoriesOnly b.height r ↔
    ∃ g, x = r ++ g ∧ g ≠ [] ∧ (∀ n ∈ g, isHidden n = false) ∧
      (b.entry x).isSome ∧ b.admits directoriesOnly x = true := by
  rw [mem_below]
  constructor
  · rintro ⟨g, hx, hg, -, hrest⟩
    exact ⟨g, hx, hg, hrest⟩
  · rintro ⟨g, rfl, hg, hvisible, hsome, hadmits⟩
    have hlength := b.length_le _ hsome
    rw [List.length_append] at hlength
    exact ⟨g, rfl, hg, by omega, hvisible, hsome, hadmits⟩

theorem nodup_below (depth : Nat) (r : Place) : (b.below directoriesOnly depth r).Nodup := by
  induction depth generalizing r with
  | zero => exact List.nodup_nil
  | succ depth ih =>
    rw [below, List.nodup_flatMap]
    constructor
    · intro n _
      refine List.nodup_cons.mpr ⟨fun hmem => ?_, ih _⟩
      obtain ⟨g, heq, hg, -⟩ := mem_below.mp hmem
      exact hg (List.self_eq_append_right.mp heq)
    · -- What lies below one name has another one at this place than what lies below another.
      have hfirst {n : String} {x : Place}
          (hx : x ∈ (r ++ [n]) :: b.below directoriesOnly depth (r ++ [n])) :
          ∃ g, x = r ++ n :: g := by
        rcases List.mem_cons.mp hx with rfl | hx
        · exact ⟨[], rfl⟩
        · obtain ⟨g, rfl, -⟩ := mem_below.mp hx
          exact ⟨g, by simp⟩
      refine (((b.nodup_names r).filter _).filter _).imp fun {n m} hne x hn hm => hne ?_
      obtain ⟨g, rfl⟩ := hfirst hn
      obtain ⟨g', heq⟩ := hfirst hm
      exact (List.cons.inj (List.append_cancel_left heq)).1

theorem sinks_succ_iff {room : Nat} : b.Sinks directoriesOnly (room + 1) r ↔
    ∃ n ∈ (b.namesOf directoriesOnly r).filter (!isHidden ·),
      b.Sinks directoriesOnly room (r ++ [n]) := by
  constructor
  · rintro (hroom | ⟨g, hlength, hvisible, hsome, hadmits⟩)
    · cases hroom
    obtain ⟨n, g, rfl⟩ := List.exists_cons_of_length_eq_add_one hlength
    obtain ⟨hn, hg⟩ := List.forall_mem_cons.mp hvisible
    rw [show r ++ n :: g = r ++ [n] ++ g by simp] at hsome hadmits
    rw [List.length_cons, Nat.add_right_cancel_iff] at hlength
    have hmem : (b.entry (r ++ [n])).isSome ∧ b.admits directoriesOnly (r ++ [n]) = true := by
      by_cases hlast : g = []
      · rw [hlast, List.append_nil] at hsome hadmits
        exact ⟨hsome, hadmits⟩
      · have hdirectory := directory_of_isSome_append hlast hsome
        simp [admits, hdirectory]
    exact ⟨n, List.mem_filter.mpr ⟨mem_namesOf.mpr hmem, by simpa using hn⟩,
      .inr ⟨g, hlength, hg, hsome, hadmits⟩⟩
  · rintro ⟨n, hn, hsinks⟩
    obtain ⟨hn, hvisible⟩ := List.mem_filter.mp hn
    have hvisible : isHidden n = false := by simpa using hvisible
    rcases hsinks with rfl | ⟨g, rfl, hg, hrest⟩
    · exact .inr ⟨[n], rfl, List.forall_mem_singleton.mpr hvisible, mem_namesOf.mp hn⟩
    · refine .inr ⟨n :: g, rfl, List.forall_mem_cons.mpr ⟨hvisible, hg⟩, ?_⟩
      rwa [show r ++ n :: g = r ++ [n] ++ g by simp]

theorem Sinks.of_succ {room : Nat} (h : b.Sinks directoriesOnly (room + 1) r) :
    b.Sinks directoriesOnly room r := by
  induction room generalizing r with
  | zero => exact .inl rfl
  | succ room ih =>
    obtain ⟨n, hn, hsinks⟩ := sinks_succ_iff.mp h
    exact sinks_succ_iff.mpr ⟨n, hn, ih hsinks⟩

/-- Where nothing lies deeper, going deeper brings nothing. -/
theorem below_eq_of_le {depth depth' : Nat} (h : ¬b.Sinks directoriesOnly (depth + 1) r)
    (hle : depth ≤ depth') : b.below directoriesOnly depth' r = b.below directoriesOnly depth r := by
  induction depth generalizing r depth' with
  | zero =>
    have hnone : (b.namesOf directoriesOnly r).filter (!isHidden ·) = [] :=
      List.eq_nil_iff_forall_not_mem.mpr fun n hn => h (sinks_succ_iff.mpr ⟨n, hn, .inl rfl⟩)
    cases depth' with
    | zero => rfl
    | succ depth' => rw [below, below, hnone, List.flatMap_nil]
  | succ depth ih =>
    cases depth' with
    | zero => exact absurd hle (Nat.not_succ_le_zero depth)
    | succ depth' =>
      rw [below, below]
      refine List.flatMap_congr fun n hn => ?_
      rw [ih (fun hsinks => h (sinks_succ_iff.mpr ⟨n, hn, hsinks⟩)) (Nat.le_of_succ_le_succ hle)]

/-- Where there is room to follow what lies below, all of it is found. -/
theorem below_eq {room : Nat} (h : ¬b.Sinks directoriesOnly room r) :
    b.below directoriesOnly room r = b.below directoriesOnly b.height r := by
  have hheight : ¬b.Sinks directoriesOnly (b.height + 1) r := by
    rintro (hroom | ⟨g, hlength, -, hsome, -⟩)
    · cases hroom
    · have hle := b.length_le _ hsome
      rw [List.length_append] at hle
      omega
  rcases Nat.le_total room b.height with hle | hle
  · exact (below_eq_of_le (fun hsinks => h hsinks.of_succ) hle).symm
  · exact below_eq_of_le hheight hle

/-! ### Steps -/

theorem mem_step_iff : x ∈ b.step directoriesOnly p r ↔
    (hasMagic p = false ∧ x = r ++ [p] ∧ (b.entry x).isSome) ∨
    (isRecursive p = true ∧ ∃ g, x = r ++ g ∧ (g = [] ∨ (∀ n ∈ g, isHidden n = false) ∧
      (b.entry x).isSome ∧ b.admits directoriesOnly x = true)) ∨
    (hasMagic p = true ∧ isRecursive p = false ∧ ∃ n, x = r ++ [n] ∧ Accepts p n ∧
      (b.entry x).isSome ∧ b.admits directoriesOnly x = true) := by
  rw [step]
  by_cases hmagic : hasMagic p = true
  · rw [if_neg (by simp [hmagic]), or_iff_right (by simp [hmagic])]
    by_cases hdeep : isRecursive p = true
    · rw [if_pos hdeep, or_iff_left (by simp [hdeep]), and_iff_right hdeep, List.mem_cons,
        mem_below_iff]
      constructor
      · rintro (rfl | ⟨g, rfl, -, hrest⟩)
        · exact ⟨[], (List.append_nil _).symm, .inl rfl⟩
        · exact ⟨g, rfl, .inr hrest⟩
      · rintro ⟨g, rfl, hrest⟩
        by_cases hg : g = []
        · exact .inl (by rw [hg, List.append_nil])
        · exact .inr ⟨g, rfl, hg, hrest.resolve_left hg⟩
    · have hdeep : isRecursive p = false := by simpa using hdeep
      rw [if_neg (by simp [hdeep]), or_iff_right (by simp [hdeep]), List.mem_map]
      simp only [List.mem_filter, mem_namesOf, Bool.and_eq_true, Bool.or_eq_true, Bool.not_eq_true',
        NamePattern.accepts_iff]
      constructor
      · rintro ⟨n, ⟨⟨hsome, hadmits⟩, haccepts⟩, rfl⟩
        exact ⟨hmagic, hdeep, n, rfl, haccepts, hsome, hadmits⟩
      · rintro ⟨-, -, n, rfl, haccepts, hsome, hadmits⟩
        exact ⟨n, ⟨⟨hsome, hadmits⟩, haccepts⟩, rfl⟩
  · have hmagic : hasMagic p = false := by simpa using hmagic
    have hdeep : ¬isRecursive p = true := fun h => by
      rw [hasMagic_of_isRecursive h] at hmagic
      cases hmagic
    rw [if_pos (by simp [hmagic]), or_iff_left (by simp [hmagic, hdeep]), and_iff_right hmagic]
    constructor
    · intro hx
      split at hx
      · rw [List.mem_singleton.mp hx]
        exact ⟨rfl, ‹_›⟩
      · cases hx
    · rintro ⟨rfl, hsome⟩
      rw [if_pos hsome]
      exact List.mem_singleton.mpr rfl

/-- A step stays where it is or leads to something below. -/
theorem exists_of_mem_step (h : x ∈ b.step directoriesOnly p r) :
    ∃ g, x = r ++ g ∧ (g = [] ∨ (b.entry x).isSome) := by
  rcases mem_step_iff.mp h with ⟨-, rfl, hsome⟩ | ⟨-, g, rfl, hg⟩ | ⟨-, -, n, rfl, -, hsome, -⟩
  · exact ⟨_, rfl, .inr hsome⟩
  · exact ⟨g, rfl, hg.imp_right fun h => h.2.1⟩
  · exact ⟨_, rfl, .inr hsome⟩

theorem exists_of_mem_reached (h : x ∈ b.reached directoriesOnly ps r) :
    ∃ g, x = r ++ g ∧ (g = [] ∨ (b.entry x).isSome) := by
  induction ps generalizing r with
  | nil => exact ⟨[], by rw [List.mem_singleton.mp h, List.append_nil], .inl rfl⟩
  | cons p ps ih =>
    obtain ⟨y, hy, hx⟩ := List.mem_flatMap.mp h
    obtain ⟨g, rfl, hg⟩ := exists_of_mem_step hy
    obtain ⟨g', rfl, hg'⟩ := ih hx
    refine ⟨g ++ g', List.append_assoc _ _ _, ?_⟩
    by_cases hnil : g' = []
    · subst hnil
      rwa [List.append_nil, List.append_nil]
    · exact .inr (hg'.resolve_left hnil)

/-- From where nothing stands a pattern leads nowhere else. -/
theorem eq_of_mem_reached (hr : b.entry r = none) (h : x ∈ b.reached directoriesOnly ps r) :
    x = r := by
  obtain ⟨g, rfl, hg⟩ := exists_of_mem_reached h
  by_cases hnil : g = []
  · rw [hnil, List.append_nil]
  · rw [directory_of_isSome_append hnil (hg.resolve_left hnil)] at hr
    cases hr

theorem isSome_append_eq_false (hr : b.entry r = none) {g : Place} (hg : g ≠ []) :
    ¬(b.entry (r ++ g)).isSome := by
  intro hsome
  rw [directory_of_isSome_append hg hsome] at hr
  cases hr

theorem step_of_none (hr : b.entry r = none) :
    b.step directoriesOnly p r = if isRecursive p then [r] else [] := by
  have hnone {g : Place} (hg : g ≠ []) := isSome_append_eq_false hr hg
  split
  · rename_i hdeep
    have hbelow : b.below directoriesOnly b.height r = [] := by
      rw [List.eq_nil_iff_forall_not_mem]
      intro x hx
      obtain ⟨g, rfl, hg, -, hsome, -⟩ := mem_below_iff.mp hx
      exact hnone hg hsome
    rw [step, if_neg (by simp [hasMagic_of_isRecursive hdeep]), if_pos hdeep, hbelow]
  · rename_i hdeep
    rw [List.eq_nil_iff_forall_not_mem]
    intro x hx
    rcases mem_step_iff.mp hx with ⟨-, rfl, hsome⟩ | ⟨hdeep', -⟩ | ⟨-, -, n, rfl, -, hsome, -⟩
    · exact hnone (by simp) hsome
    · exact hdeep hdeep'
    · exact hnone (by simp) hsome

/-- Only by `**` a pattern stays where nothing stands. -/
theorem reached_ne_nil_iff (hr : b.entry r = none) :
    b.reached directoriesOnly ps r ≠ [] ↔ ∀ p ∈ ps, isRecursive p = true := by
  induction ps with
  | nil => exact iff_of_true (List.cons_ne_nil _ _) nofun
  | cons p ps ih =>
    rw [reached, step_of_none hr, List.forall_mem_cons, ← ih]
    split
    · rename_i hdeep
      rw [and_iff_right hdeep, List.flatMap_cons, List.flatMap_nil, List.append_nil]
    · rename_i hdeep
      exact iff_of_false (by simp) fun h => hdeep h.1

theorem reached_append_singleton (ps : List String) (p : String) (r : Place) :
    b.reached directoriesOnly (ps ++ [p]) r =
      (b.reached true ps r).flatMap (b.step directoriesOnly p) := by
  induction ps generalizing r with
  | nil => simp [reached]
  | cons q ps ih =>
    have hlast : (!(ps ++ [p]).isEmpty) = true := by simp
    rw [List.cons_append, reached, reached, hlast, Bool.or_true, Bool.true_or, List.flatMap_assoc]
    exact List.flatMap_congr fun y _ => ih y

/-! ### Room -/

theorem not_exceeds_nil {room : Nat} : ¬b.Exceeds room directoriesOnly [] r := by
  rintro (hlength | ⟨before, p, after, hsplit, -⟩)
  · exact Nat.not_lt_zero _ hlength
  · simp at hsplit

/-- The last name of a pattern takes room where `**` goes on from it, and the names before it have one
place less. -/
theorem exceeds_append_singleton {room : Nat} (ps : List String) (p : String) (r : Place) :
    b.Exceeds (room + 1) directoriesOnly (ps ++ [p]) r ↔ b.Exceeds room true ps r ∨
      ∃ x ∈ b.reached true ps r, isRecursive p = true ∧ b.Sinks directoriesOnly (room + 1) x := by
  have hrest (after : List String) (p : String) (x : Place) :
      b.Sinks (directoriesOnly || !(after ++ [p]).isEmpty) (room + 1 - (after ++ [p]).length) x ↔
        b.Sinks (true || !after.isEmpty) (room - after.length) x := by
    have hlast : (!(after ++ [p]).isEmpty) = true := by simp
    rw [hlast, Bool.or_true, Bool.true_or, List.length_append, List.length_singleton,
      Nat.add_sub_add_right]
  constructor
  · rintro (hlength | ⟨before, q, after, hsplit, hq, x, hx, hsinks⟩)
    · rw [List.length_append, List.length_singleton] at hlength
      exact .inl (.inl (by omega))
    rcases List.eq_nil_or_concat after with rfl | ⟨after, last, rfl⟩
    · obtain ⟨rfl, hlast⟩ := List.append_inj' hsplit rfl
      obtain rfl := List.singleton_inj.mp hlast
      simp only [List.isEmpty_nil, Bool.not_true, Bool.or_false, List.length_nil,
        Nat.sub_zero] at hsinks
      exact .inr ⟨x, hx, hq, hsinks⟩
    · rw [List.concat_eq_append, ← List.cons_append, ← List.append_assoc] at hsplit
      obtain ⟨rfl, -⟩ := List.append_inj' hsplit rfl
      rw [List.concat_eq_append] at hsinks
      exact .inl (.inr ⟨before, q, after, rfl, hq, x, hx, (hrest after last x).mp hsinks⟩)
  · rintro ((hlength | ⟨before, q, after, rfl, hq, x, hx, hsinks⟩) | ⟨x, hx, hp, hsinks⟩)
    · refine .inl ?_
      rw [List.length_append, List.length_singleton]
      omega
    · exact .inr ⟨before, q, after ++ [p], by simp, hq, x, hx, (hrest after p x).mpr hsinks⟩
    · exact .inr ⟨ps, p, [], rfl, hp, x, hx, by simpa using hsinks⟩

/-- Where nothing stands, a pattern can only have too many names itself. -/
theorem exceeds_iff_of_none (hr : b.entry r = none) {room : Nat} :
    b.Exceeds room directoriesOnly ps r ↔ room < ps.length := by
  refine ⟨?_, .inl⟩
  rintro (hlength | ⟨before, p, after, rfl, -, x, hx, hsinks⟩)
  · exact hlength
  have hnone : room - after.length = 0 := by
    rcases hsinks with hnone | ⟨g, hg, -, hsome, -⟩
    · exact hnone
    · rw [eq_of_mem_reached hr hx] at hsome
      have hnil : g = [] := by_contra fun hg => isSome_append_eq_false hr hg hsome
      rw [← hg, hnil, List.length_nil]
  rw [List.length_append, List.length_cons]
  omega

/-- A pattern that takes too much room has many names, or something lies deep. -/
theorem Exceeds.exists_deep {room : Nat} (h : b.Exceeds room directoriesOnly ps r) :
    ∃ x, (b.entry x).isSome ∧ room < ps.length + x.length := by
  have hroot : (b.entry []).isSome := by rw [b.entry_root]; rfl
  rcases h with hlength | ⟨before, p, after, rfl, -, x, -, hnone | ⟨g, hg, -, hsome, -⟩⟩
  · exact ⟨[], hroot, hlength⟩
  · refine ⟨[], hroot, ?_⟩
    simp only [List.length_append, List.length_cons]
    omega
  · refine ⟨x ++ g, hsome, ?_⟩
    simp only [List.length_append, List.length_cons]
    omega

/-! ### Files -/

/-- Something that counts where a pattern ends, or goes on behind. -/
theorem admits_of_append {ns : Place} {bytes : List UInt8}
    (hfile : b.entry (x ++ ns) = some (.file bytes)) (hgoes : ps = [] ∨ ns ≠ []) :
    (b.entry x).isSome ∧ b.admits (!ps.isEmpty) x = true := by
  by_cases hns : ns = []
  · rw [hns, List.append_nil] at hfile
    rw [hgoes.resolve_right (not_not_intro hns), hfile]
    exact ⟨rfl, rfl⟩
  · have hdirectory := directory_of_isSome_append hns (by rw [hfile]; rfl)
    simp [admits, hdirectory]

theorem goes_of_admits {ns : Place} {bytes : List UInt8}
    (hfile : b.entry (x ++ ns) = some (.file bytes)) (hadmits : b.admits (!ps.isEmpty) x = true) :
    ps = [] ∨ ns ≠ [] := by
  by_cases hns : ns = []
  · rw [hns, List.append_nil] at hfile
    exact .inl (by simpa [admits, hfile] using hadmits)
  · exact .inr hns

/-- **A pattern leads to a file just if it matches the path to it.** -/
theorem mem_reached_iff {bytes : List UInt8} (hfile : b.entry x = some (.file bytes)) :
    x ∈ b.reached false ps r ↔ ∃ ns, x = r ++ ns ∧ Matches ps ns := by
  induction ps generalizing r with
  | nil =>
    rw [reached, List.mem_singleton]
    constructor
    · rintro rfl
      exact ⟨[], (List.append_nil _).symm, .done⟩
    · rintro ⟨ns, rfl, hns⟩
      cases hns
      exact List.append_nil _
  | cons p ps ih =>
    simp only [reached, Bool.false_or, List.mem_flatMap, ih]
    constructor
    · rintro ⟨y, hy, ns, rfl, hns⟩
      rcases mem_step_iff.mp hy with ⟨hp, rfl, -⟩ | ⟨hp, g, rfl, hg⟩ | ⟨hp, hp', n, rfl, hn, -, hd⟩
      · exact ⟨p :: ns, by simp, .plain hp hns⟩
      · refine ⟨g ++ ns, by simp, ?_⟩
        rcases hg with rfl | ⟨hvisible, -, hd⟩
        · exact .deep [] hp nofun (.inl rfl) hns
        · exact .deep g hp hvisible (.inr (goes_of_admits hfile hd)) hns
      · exact ⟨n :: ns, by simp, .wild hp hp' hn (goes_of_admits hfile hd) hns⟩
    · rintro ⟨ns, rfl, hns⟩
      cases hns with
      | plain hp hns =>
        rename_i ns
        rw [show r ++ p :: ns = r ++ [p] ++ ns by simp] at hfile ⊢
        have hends : ([] : List String) = [] ∨ ns ≠ [] := .inl rfl
        have hsome := (admits_of_append hfile hends).1
        exact ⟨r ++ [p], mem_step_iff.mpr (.inl ⟨hp, rfl, hsome⟩), ns, rfl, hns⟩
      | wild hp hp' hn hgoes hns =>
        rename_i n ns
        rw [show r ++ n :: ns = r ++ [n] ++ ns by simp] at hfile ⊢
        obtain ⟨hsome, hadmits⟩ := admits_of_append hfile hgoes
        exact ⟨r ++ [n], mem_step_iff.mpr (.inr (.inr ⟨hp, hp', n, rfl, hn, hsome, hadmits⟩)), ns,
          rfl, hns⟩
      | deep ds hp hvisible hgoes hns =>
        rename_i ns
        rw [← List.append_assoc] at hfile ⊢
        refine ⟨r ++ ds, mem_step_iff.mpr (.inr (.inl ⟨hp, ds, rfl, ?_⟩)), ns, rfl, hns⟩
        exact hgoes.imp_right fun hgoes => ⟨hvisible, admits_of_append hfile hgoes⟩

/-! ### The same tree in another place -/

/-- The same stands below two directories. -/
def Same (b b' : Branch) : Prop := ∀ r, b.entry r = b'.entry r

namespace Same

variable {b' : Branch} (h : b.Same b')

include h

theorem admits_eq : b.admits directoriesOnly = b'.admits directoriesOnly := by
  funext r
  rw [admits, admits, h]

theorem namesOf_perm (r : Place) :
    (b.namesOf directoriesOnly r).Perm (b'.namesOf directoriesOnly r) := by
  refine (List.perm_ext_iff_of_nodup ((b.nodup_names r).filter _)
    ((b'.nodup_names r).filter _)).mpr fun n => ?_
  rw [← namesOf, ← namesOf, mem_namesOf, mem_namesOf, h, h.admits_eq]

theorem below_perm (r : Place) : (b.below directoriesOnly b.height r).Perm
    (b'.below directoriesOnly b'.height r) := by
  rw [List.perm_ext_iff_of_nodup (nodup_below _ _) (nodup_below _ _)]
  intro x
  rw [mem_below_iff, mem_below_iff, h, h.admits_eq]

theorem step_perm (p : String) (r : Place) :
    (b.step directoriesOnly p r).Perm (b'.step directoriesOnly p r) := by
  rw [step, step, h]
  split
  · exact .refl _
  · split
    · exact (h.below_perm r).cons r
    · exact ((h.namesOf_perm r).filter _).map _

theorem sinks_iff {room : Nat} :
    b.Sinks directoriesOnly room r ↔ b'.Sinks directoriesOnly room r := by
  simp only [Sinks, h _, h.admits_eq]

/-- **The places to which a pattern leads depend on the tree only**, their order apart. -/
theorem reached_perm (ps : List String) (r : Place) :
    (b.reached directoriesOnly ps r).Perm (b'.reached directoriesOnly ps r) := by
  induction ps generalizing r with
  | nil => exact .refl _
  | cons p ps ih => exact (h.step_perm p r).flatMap fun y _ => ih y

theorem exceeds_iff {room : Nat} :
    b.Exceeds room directoriesOnly ps r ↔ b'.Exceeds room directoriesOnly ps r := by
  simp only [Exceeds, h.sinks_iff, (h.reached_perm _ r).mem_iff]

end Same

end Branch

end StepFlow
