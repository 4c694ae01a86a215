import StepFlow.Files.Glob
import StepFlow.Proofs.Files.Tree
import Mathlib.Data.List.Basic
import Mathlib.Data.List.Induction
import Mathlib.Data.List.TakeDrop
import Mathlib.Data.List.TakeWhile

/-!
# Spellings of paths

Patterns are taken apart at their slashes and the paths found for them are put together again, all of
it on texts. An absolute path in normal form stays the same thing in between: a name put behind its
text gives the text of the longer path, and what is cut off such a text is its last name. A path found
may have a slash behind it, which its normal form drops.

## Main definitions

* `Path.IsNormal` — absolute paths in normal form
* `Path.IsName`, `Path.IsResolved` — names that lead one step down, and paths of such names only
* `Path.spelled` — the text of a path, with a slash behind it or not
* `Path.under` — the path of a place below

## Main results

* `Glob.joined_spelled`, `Glob.splitLast_text` — putting together and taking apart
* `Path.ofText_joined` — the normal form of a text to which a name has been put
* `Path.ofText_spelled` — the normal form of a text is the path that it spells
* `FileTree.placeOf_eq_walk` — where an absolute path leads
-/

namespace StepFlow

/-! ### Names between slashes -/

theorem splitNames_cons (c : Char) (s : List Char) :
    splitNames (c :: s) = if c = '/' then [] :: splitNames s
      else match splitNames s with
        | [] => [[c]]
        | n :: ns => (c :: n) :: ns :=
  rfl

theorem splitNames_ne_nil (s : List Char) : splitNames s ≠ [] := by
  cases s with
  | nil => exact List.cons_ne_nil _ _
  | cons c s =>
    rw [splitNames_cons]
    split
    · exact List.cons_ne_nil _ _
    · split <;> exact List.cons_ne_nil _ _

theorem splitNames_append_slash (a b : List Char) :
    splitNames (a ++ '/' :: b) = splitNames a ++ splitNames b := by
  induction a with
  | nil => rfl
  | cons c a ih =>
    obtain ⟨n, ns, hns⟩ := List.exists_cons_of_ne_nil (splitNames_ne_nil a)
    rw [List.cons_append, splitNames_cons, ih, splitNames_cons, hns]
    split <;> rfl

theorem splitNames_of_not_mem {s : List Char} (h : '/' ∉ s) : splitNames s = [s] := by
  induction s with
  | nil => rfl
  | cons c s ih =>
    obtain ⟨hc, hs⟩ := not_or.mp (mt List.mem_cons.mpr h)
    rw [splitNames_cons, if_neg (Ne.symm hc), ih hs]

theorem exists_mem_splitNames {s : List Char} {c : Char} (hc : c ∈ s) (hslash : c ≠ '/') :
    ∃ n ∈ splitNames s, c ∈ n := by
  obtain ⟨a, b, rfl⟩ := List.append_of_mem hc
  clear hc
  induction a with
  | nil =>
    obtain ⟨n, ns, hns⟩ := List.exists_cons_of_ne_nil (splitNames_ne_nil b)
    rw [List.nil_append, splitNames_cons, if_neg hslash, hns]
    exact ⟨_, List.mem_cons_self, List.mem_cons_self⟩
  | cons d a ih =>
    obtain ⟨n, hn, hmem⟩ := ih
    obtain ⟨m, ms, hms⟩ := List.exists_cons_of_ne_nil (splitNames_ne_nil (a ++ c :: b))
    rw [List.cons_append, splitNames_cons, hms]
    rw [hms] at hn
    split
    · exact ⟨n, List.mem_cons_of_mem _ hn, hmem⟩
    · rcases List.mem_cons.mp hn with rfl | hn
      · exact ⟨_, List.mem_cons_self, List.mem_cons_of_mem _ hmem⟩
      · exact ⟨n, List.mem_cons_of_mem _ hn, hmem⟩

namespace Path

/-- A name as it stands in a normal form. -/
structure IsPart (name : String) : Prop where
  ne_empty : name ≠ ""
  ne_dot : name ≠ "."
  no_slash : '/' ∉ name.toList

/-- A name that leads one step down. -/
structure IsName (name : String) : Prop extends IsPart name where
  ne_dots : name ≠ ".."

/-- What an absolute path begins with. -/
def IsRoot (root : String) : Prop := root = "/" ∨ root = "//"

/-- An absolute path in normal form. -/
structure IsNormal (p : Path) : Prop where
  root : IsRoot p.root
  parts : ∀ n ∈ p.names, IsPart n

/-- An absolute path that leads down from the root only. -/
structure IsResolved (p : Path) : Prop where
  root : IsRoot p.root
  names : ∀ n ∈ p.names, IsName n

theorem IsResolved.normal {p : Path} (h : p.IsResolved) : p.IsNormal :=
  ⟨h.root, fun n hn => (h.names n hn).toIsPart⟩

theorem IsPart.head?_ne {n : String} (h : IsPart n) : n.toList.head? ≠ some '/' :=
  fun hhead => h.no_slash (List.mem_of_mem_head? hhead)

theorem IsPart.toList_ne_nil {n : String} (h : IsPart n) : n.toList ≠ [] :=
  fun hnil => h.ne_empty (String.toList_eq_nil_iff.mp hnil)

variable {root : String} {names : List String} {n : String}

/-- The text of a path, with a slash behind it or not. -/
def spelled (p : Path) (slash : Bool) : String :=
  if slash then Glob.joined p.text "" else p.text

/-- The path of a place below. -/
def under (p : Path) (r : List String) : Path := ⟨p.root, p.names ++ r⟩

@[simp] theorem spelled_false (p : Path) : p.spelled false = p.text := rfl

theorem text_root (h : IsRoot root) : text ⟨root, []⟩ = root := by
  rcases h with rfl | rfl <;> rfl

theorem text_eq (h : IsRoot root) (names : List String) :
    text ⟨root, names⟩ = root ++ "/".intercalate names := by
  rw [text, if_neg]
  rcases h with rfl | rfl <;> simp

/-! ### Putting names together -/

/-- The text of a path with names ends in the last of these. -/
theorem text_append (h : IsRoot root) (hnames : names ≠ []) (n : String) :
    text ⟨root, names ++ [n]⟩ = text ⟨root, names⟩ ++ "/" ++ n := by
  rw [text_eq h, text_eq h, String.intercalate_append_of_ne_nil hnames (List.cons_ne_nil _ _),
    String.intercalate_singleton, String.append_assoc, String.append_assoc, String.append_assoc]

theorem text_singleton (h : IsRoot root) (n : String) : text ⟨root, [n]⟩ = root ++ n := by
  rw [text_eq h, String.intercalate_singleton]

/-- The text of an absolute path ends in a slash only if it has nothing else. -/
theorem getLast?_text (h : IsRoot root) (hnames : ∀ n ∈ names, IsPart n) :
    (text ⟨root, names⟩).toList.getLast? = some '/' ↔ names = [] := by
  induction names using List.reverseRecOn with
  | nil =>
    rw [text_root h]
    rcases h with rfl | rfl <;> exact iff_of_true rfl rfl
  | append_singleton names n _ =>
    have hn : IsPart n := hnames n (List.mem_append_right _ (List.mem_singleton.mpr rfl))
    refine iff_of_false (fun hlast => hn.no_slash ?_) (by simp)
    by_cases hnil : names = []
    · rw [hnil, List.nil_append, text_singleton h, String.toList_append,
        List.getLast?_append_of_ne_nil _ hn.toList_ne_nil] at hlast
      exact List.mem_of_getLast? hlast
    · rw [text_append h hnil, String.toList_append,
        List.getLast?_append_of_ne_nil _ hn.toList_ne_nil] at hlast
      exact List.mem_of_getLast? hlast

theorem head?_text (h : IsRoot root) (names : List String) :
    (text ⟨root, names⟩).toList.head? = some '/' := by
  rw [text_eq h, String.toList_append]
  rcases h with rfl | rfl <;> rfl

/-- The characters of a path's text are those of its names, slashes apart. -/
theorem mem_text (h : IsRoot root) {c : Char} (hc : c ≠ '/') :
    c ∈ (text ⟨root, names⟩).toList ↔ ∃ n ∈ names, c ∈ n.toList := by
  have hroot : c ∉ root.toList := by rcases h with rfl | rfl <;> simpa using hc
  induction names using List.reverseRecOn with
  | nil =>
    rw [text_root h]
    exact iff_of_false hroot nofun
  | append_singleton names n ih =>
    by_cases hnil : names = []
    · rw [hnil, List.nil_append, text_singleton h, String.toList_append, List.mem_append,
        or_iff_right hroot]
      simp
    · rw [text_append h hnil, String.toList_append, String.toList_append, List.mem_append,
        List.mem_append]
      simp [ih, hc, or_and_right, exists_or]

theorem text_ne_empty (h : IsRoot root) (names : List String) : text ⟨root, names⟩ ≠ "" := by
  intro hempty
  have hhead := head?_text h names
  rw [hempty] at hhead
  cases hhead

end Path

namespace Glob

open StepFlow.Path (IsPart IsName IsRoot)

variable {root : String} {names : List String} {d n : String}

theorem joined_of_absolute (hn : n.toList.head? ≠ some '/') (hd : d ≠ "") :
    joined d n = if d.toList.getLast? = some '/' then d ++ n else d ++ "/" ++ n := by
  rw [joined, if_neg hn]
  by_cases hlast : d.toList.getLast? = some '/'
  · rw [if_pos hlast, if_pos (by simp [hlast])]
  · rw [if_neg hlast, if_neg (by simp [hlast, hd])]

theorem head?_joined (hn : n.toList.head? ≠ some '/') (hd : d.toList.head? = some '/') :
    (joined d n).toList.head? = some '/' := by
  have hne : d.toList ≠ [] := by
    intro hnil
    rw [hnil] at hd
    cases hd
  rw [joined_of_absolute hn (mt String.toList_eq_nil_iff.mpr hne)]
  split
  · rw [String.toList_append, List.head?_append_of_ne_nil _ hne, hd]
  · rw [String.append_assoc, String.toList_append, List.head?_append_of_ne_nil _ hne, hd]

/-- A name put behind the text of a path gives the text of the longer path. -/
theorem joined_text (h : IsRoot root) (hnames : ∀ n ∈ names, IsPart n) (hn : IsPart n) :
    joined (Path.text ⟨root, names⟩) n = Path.text ⟨root, names ++ [n]⟩ := by
  rw [joined_of_absolute hn.head?_ne (Path.text_ne_empty h names)]
  by_cases hnil : names = []
  · rw [if_pos ((Path.getLast?_text h hnames).mpr hnil), hnil, Path.text_root h, List.nil_append,
      Path.text_singleton h]
  · rw [if_neg (mt (Path.getLast?_text h hnames).mp hnil), Path.text_append h hnil]

/-- A text with a slash behind it. -/
theorem joined_empty (hd : d ≠ "") :
    joined d "" = if d.toList.getLast? = some '/' then d else d ++ "/" := by
  rw [joined_of_absolute (by decide) hd, String.append_empty, String.append_empty]

theorem joined_joined_empty (hn : n.toList.head? ≠ some '/') (hd : d ≠ "") :
    joined (joined d "") n = joined d n := by
  rw [joined_empty hd, joined_of_absolute hn hd]
  by_cases hlast : d.toList.getLast? = some '/'
  · rw [if_pos hlast, if_pos hlast, joined_of_absolute hn hd, if_pos hlast]
  · rw [if_neg hlast, if_neg hlast, joined_of_absolute hn (by simp), if_pos]
    rw [String.toList_append]
    exact List.getLast?_concat

theorem joined_spelled (h : IsRoot root) (hnames : ∀ n ∈ names, IsPart n) (hn : IsPart n)
    (slash : Bool) :
    joined (Path.spelled ⟨root, names⟩ slash) n = Path.text ⟨root, names ++ [n]⟩ := by
  cases slash with
  | false => exact joined_text h hnames hn
  | true =>
    rw [Path.spelled, if_pos rfl, joined_joined_empty hn.head?_ne (Path.text_ne_empty h names),
      joined_text h hnames hn]

theorem joined_spelled_empty (h : IsRoot root) (names : List String) (slash : Bool) :
    joined (Path.spelled ⟨root, names⟩ slash) "" = Path.spelled ⟨root, names⟩ true := by
  cases slash with
  | false => rfl
  | true =>
    rw [Path.spelled, if_pos rfl,
      joined_joined_empty (by decide) (Path.text_ne_empty h names)]

theorem joined_name {m : String} (hn : IsPart n) (hm : m.toList.head? ≠ some '/') :
    joined n m = n ++ "/" ++ m := by
  rw [joined_of_absolute hm hn.ne_empty, if_neg]
  exact fun h => hn.no_slash (List.mem_of_getLast? h)

theorem head?_joined_name {m : String} (hn : IsPart n) (hm : m.toList.head? ≠ some '/') :
    (joined n m).toList.head? ≠ some '/' := by
  rw [joined_name hn hm, String.append_assoc, String.toList_append,
    List.head?_append_of_ne_nil _ hn.toList_ne_nil]
  exact hn.head?_ne

/-- Names may be put together in any order. -/
theorem joined_assoc {m : String} (hd : d ≠ "") (hn : IsPart n) (hm : m.toList.head? ≠ some '/') :
    joined d (joined n m) = joined (joined d n) m := by
  have hlast (a : String) : (a ++ n).toList.getLast? ≠ some '/' := by
    rw [String.toList_append, List.getLast?_append_of_ne_nil _ hn.toList_ne_nil]
    exact fun h => hn.no_slash (List.mem_of_getLast? h)
  rw [joined_of_absolute (head?_joined_name hn hm) hd, joined_of_absolute hn.head?_ne hd,
    joined_name hn hm]
  split
  · rw [joined_of_absolute hm (by simp [hd]), if_neg (hlast _)]
    simp only [String.append_assoc]
  · rw [joined_of_absolute hm (by simp [hd]), if_neg (hlast _)]
    simp only [String.append_assoc]

theorem utf8ByteSize_le_joined (hn : n.toList.head? ≠ some '/') (hd : d ≠ "") :
    d.utf8ByteSize ≤ (joined d n).utf8ByteSize := by
  rw [joined_of_absolute hn hd]
  split
  · rw [String.utf8ByteSize_append]
    exact Nat.le_add_right _ _
  · rw [String.append_assoc, String.utf8ByteSize_append]
    exact Nat.le_add_right _ _

/-! ### Taking paths apart -/

/-- A text without the slashes at its end, unless it has nothing else. -/
def trimmed (s : List Char) : List Char :=
  if (s.reverse.dropWhile (· = '/')).isEmpty then s else (s.reverse.dropWhile (· = '/')).reverse

theorem splitLast_append {a b : String} (ha : '/' ∉ a.toList) (hb : b.toList.getLast? = some '/') :
    splitLast (b ++ a) = (String.ofList (trimmed b.toList), a) := by
  obtain ⟨cs, hcs⟩ := List.getLast?_eq_some_iff.mp hb
  have hpass : ∀ c ∈ a.toList.reverse, decide (c ≠ '/') = true := by
    intro c hc
    rw [decide_eq_true_eq]
    rintro rfl
    exact ha (List.mem_reverse.mp hc)
  have hstop : b.toList.reverse = '/' :: cs.reverse := by
    rw [hcs, List.reverse_append]
    rfl
  have hspan : (b ++ a).toList.reverse.span (· ≠ '/') = (a.toList.reverse, b.toList.reverse) := by
    rw [List.span_eq_takeWhile_dropWhile, String.toList_append, List.reverse_append,
      List.takeWhile_append_of_pos hpass, List.dropWhile_append_of_pos hpass, hstop,
      List.takeWhile_cons_of_neg (by simp), List.dropWhile_cons_of_neg (by simp), List.append_nil]
  rw [splitLast, hspan, trimmed]
  dsimp only
  split <;> simp

theorem trimmed_append_slash {s : List Char} (hs : s ≠ []) (hlast : s.getLast? ≠ some '/') :
    trimmed (s ++ ['/']) = s := by
  have hkeep : s.reverse.dropWhile (· = '/') = s.reverse := by
    rw [List.dropWhile_eq_self_iff]
    intro hlength
    rw [List.getLast?_eq_head?_reverse, List.head?_eq_getElem?, List.getElem?_eq_getElem hlength]
      at hlast
    simpa using hlast
  rw [trimmed, List.reverse_append, List.reverse_singleton, List.singleton_append,
    List.dropWhile_cons_of_pos (by simp), hkeep, if_neg (by simpa using hs), List.reverse_reverse]

/-- The text of a path is cut before its last name. -/
theorem splitLast_text (h : IsRoot root) (hnames : ∀ n ∈ names, IsPart n) (hn : IsPart n) :
    splitLast (Path.text ⟨root, names ++ [n]⟩) = (Path.text ⟨root, names⟩, n) := by
  by_cases hnil : names = []
  · rw [hnil, List.nil_append, Path.text_singleton h, Path.text_root h, splitLast_append hn.no_slash]
    · rcases h with rfl | rfl <;> rfl
    · rcases h with rfl | rfl <;> rfl
  · have hlast := mt (Path.getLast?_text h hnames).mp hnil
    rw [Path.text_append h hnil, splitLast_append hn.no_slash]
    · rw [String.toList_append, show "/".toList = ['/'] from rfl, trimmed_append_slash _ hlast,
        String.ofList_toList]
      exact mt String.toList_eq_nil_iff.mp (Path.text_ne_empty h names)
    · rw [String.toList_append]
      exact List.getLast?_concat

end Glob

namespace Path

/-! ### Normal forms -/

variable {p : Path} {root : String} {names : List String} {d n : String}

theorem head?_spelled (h : IsRoot root) (names : List String) (slash : Bool) :
    (spelled ⟨root, names⟩ slash).toList.head? = some '/' := by
  cases slash with
  | false => exact head?_text h names
  | true =>
    rw [spelled, if_pos rfl]
    exact Glob.head?_joined (by decide) (head?_text h names)

theorem spelled_ne_empty (h : IsRoot root) (names : List String) (slash : Bool) :
    spelled ⟨root, names⟩ slash ≠ "" := by
  intro hempty
  have hhead := head?_spelled h names slash
  rw [hempty] at hhead
  cases hhead

/-- The characters of a spelled path are those of its names, slashes apart. -/
theorem mem_spelled (h : IsRoot root) {c : Char} (hc : c ≠ '/') (slash : Bool) :
    c ∈ (spelled ⟨root, names⟩ slash).toList ↔ ∃ n ∈ names, c ∈ n.toList := by
  cases slash with
  | false => exact mem_text h hc
  | true =>
    rw [spelled, if_pos rfl, Glob.joined_empty (text_ne_empty h names), ← mem_text h hc]
    split
    · rfl
    · rw [String.toList_append, List.mem_append, or_iff_left]
      simpa using hc

theorem names_ofText (s : String) : (ofText s).names =
    ((splitNames s.toList).filter fun n => !n.isEmpty && n ≠ ['.']).map String.ofList :=
  rfl

theorem isPart_of_mem_ofText {s : String} (h : n ∈ (ofText s).names) : IsPart n := by
  rw [names_ofText] at h
  obtain ⟨cs, hcs, rfl⟩ := List.mem_map.mp h
  obtain ⟨hsplit, hkeep⟩ := List.mem_filter.mp hcs
  rw [Bool.and_eq_true, Bool.not_eq_true', List.isEmpty_eq_false_iff, decide_eq_true_eq] at hkeep
  refine ⟨fun hempty => hkeep.1 ?_, fun hdot => hkeep.2 ?_, ?_⟩
  · rw [← String.toList_ofList (l := cs), hempty]
    rfl
  · rw [← String.toList_ofList (l := cs), hdot]
    rfl
  · rw [String.toList_ofList]
    exact FileTree.not_mem_of_mem_splitNames hsplit

/-- The names of a normal form lead one step down, two dots apart. -/
theorem isName_of_mem_ofText {s : String} (h : n ∈ (ofText s).names) (hdots : n ≠ "..") :
    IsName n :=
  ⟨isPart_of_mem_ofText h, hdots⟩

theorem names_ofText_append_slash (a b : String) :
    (ofText (a ++ "/" ++ b)).names = (ofText a).names ++ (ofText b).names := by
  have htext : (a ++ "/" ++ b).toList = a.toList ++ '/' :: b.toList := by
    rw [String.toList_append, String.toList_append, List.append_assoc]
    rfl
  rw [names_ofText, htext, splitNames_append_slash, List.filter_append, List.map_append]
  rfl

theorem names_ofText_append (ha : a.toList.getLast? = some '/') (b : String) :
    (ofText (a ++ b)).names = (ofText a).names ++ (ofText b).names := by
  obtain ⟨cs, hcs⟩ := List.getLast?_eq_some_iff.mp ha
  obtain rfl : a = String.ofList cs ++ "/" := by
    rw [← String.toList_inj, hcs, String.toList_append, String.toList_ofList]
    rfl
  have hempty := names_ofText_append_slash (String.ofList cs) ""
  rw [String.append_empty] at hempty
  rw [names_ofText_append_slash, hempty]
  exact congrArg (· ++ _) (List.append_nil _).symm

/-- What follows the text of an absolute path does not change what it begins with. -/
theorem rootOf_append {a b : List Char} (ha : a.head? = some '/')
    (h : b.head? ≠ some '/' ∨ a.getLast? ≠ some '/') : rootOf (a ++ b) = rootOf a := by
  rcases a with _ | ⟨c₁, _ | ⟨c₂, _ | ⟨c₃, cs⟩⟩⟩
  · cases ha
  · cases ha
    rcases h with h | h
    · rcases b with _ | ⟨c, cs⟩
      · rfl
      · have hc : c ≠ '/' := fun heq => h (congrArg some heq)
        simp [rootOf, hc]
    · exact absurd rfl h
  · cases ha
    by_cases hc₂ : c₂ = '/'
    · subst hc₂
      rcases h with h | h
      · rcases b with _ | ⟨c, cs⟩
        · rfl
        · have hc : c ≠ '/' := fun heq => h (congrArg some heq)
          simp [rootOf, hc]
      · exact absurd rfl h
    · simp [rootOf, hc₂]
  · cases ha
    by_cases hc₂ : c₂ = '/'
    · subst hc₂
      by_cases hc₃ : c₃ = '/'
      · subst hc₃
        rfl
      · simp [rootOf, hc₃]
    · simp [rootOf, hc₂]

theorem root_ofText_append {a b : String} (ha : a.toList.head? = some '/')
    (h : b.toList.head? ≠ some '/' ∨ a.toList.getLast? ≠ some '/') :
    (ofText (a ++ b)).root = (ofText a).root := by
  rw [ofText, String.toList_append, rootOf_append ha h]
  rfl

protected theorem ext {q : Path} (hroot : p.root = q.root) (hnames : p.names = q.names) : p = q := by
  cases p
  cases q
  cases hroot
  cases hnames
  rfl

/-- **The normal form of a text to which a name has been put.** -/
theorem ofText_joined (hd : d.toList.head? = some '/') (hn : n.toList.head? ≠ some '/') :
    ofText (Glob.joined d n) = ⟨(ofText d).root, (ofText d).names ++ (ofText n).names⟩ := by
  have hempty : d ≠ "" := by
    rintro rfl
    cases hd
  rw [Glob.joined_of_absolute hn hempty]
  split
  · rename_i hlast
    exact Path.ext (root_ofText_append hd (.inl hn)) (names_ofText_append hlast n)
  · rename_i hlast
    refine Path.ext ?_ (names_ofText_append_slash d n)
    rw [String.append_assoc]
    exact root_ofText_append hd (.inr hlast)

theorem names_ofText_name (hn : IsPart n) : (ofText n).names = [n] := by
  have hkeep : (!n.toList.isEmpty && decide (n.toList ≠ ['.'])) = true := by
    have hdot : n.toList ≠ ['.'] := fun h => hn.ne_dot (String.toList_inj.mp h)
    simp [hn.ne_empty, hdot]
  rw [names_ofText, splitNames_of_not_mem hn.no_slash, List.filter_cons_of_pos (by exact hkeep),
    List.filter_nil, List.map_singleton, String.ofList_toList]

theorem names_ofText_of_not_mem {s : String} (h : '/' ∉ s.toList) :
    (ofText s).names = [] ∨ (ofText s).names = [s] := by
  rw [names_ofText, splitNames_of_not_mem h]
  by_cases hkeep : (!s.toList.isEmpty && decide (s.toList ≠ ['.'])) = true
  · rw [List.filter_cons_of_pos (by exact hkeep), List.filter_nil, List.map_singleton,
      String.ofList_toList]
    exact .inr rfl
  · rw [List.filter_cons_of_neg (by exact hkeep)]
    exact .inl rfl

theorem ofText_text_root (h : IsRoot root) : ofText root = ⟨root, []⟩ := by
  rcases h with rfl | rfl <;> rfl

/-- **The normal form of a path's text is the path.** -/
theorem ofText_text (hp : p.IsNormal) : ofText p.text = p := by
  obtain ⟨root, names⟩ := p
  obtain ⟨hroot, hnames⟩ := hp
  dsimp only at hroot hnames
  induction names using List.reverseRecOn with
  | nil => rw [text_root hroot, ofText_text_root hroot]
  | append_singleton names n ih =>
    obtain ⟨hnames, hn⟩ := List.forall_mem_append.mp hnames
    have hn := List.forall_mem_singleton.mp hn
    rw [← Glob.joined_text hroot hnames hn,
      ofText_joined (head?_text hroot names) hn.head?_ne, ih hnames, names_ofText_name hn]

theorem root_ofText_cases (s : String) :
    (s.toList.head? = some '/' ∧ IsRoot (ofText s).root) ∨
      (s.toList.head? ≠ some '/' ∧ (ofText s).root = "") := by
  rw [ofText]
  dsimp only
  generalize s.toList = cs
  unfold rootOf
  split
  · exact .inl ⟨rfl, .inl rfl⟩
  · exact .inl ⟨rfl, .inr rfl⟩
  · exact .inl ⟨rfl, .inl rfl⟩
  · rename_i hother
    refine .inr ⟨fun hhead => ?_, rfl⟩
    obtain ⟨cs, hcs⟩ := List.head?_eq_some_iff.mp hhead
    exact hother cs hcs

/-- The text of a path ends in its last name, and so in no slash. -/
theorem getLast?_text_append {name : String} (root : String) (names : List String)
    (h : IsPart name) : (text ⟨root, names ++ [name]⟩).toList.getLast? ≠ some '/' := by
  obtain ⟨a, ha⟩ := exists_text_append root names
  rw [ha, String.toList_append, List.getLast?_append_of_ne_nil _ h.toList_ne_nil]
  exact fun hlast => h.no_slash (List.mem_of_getLast? hlast)

theorem child_eq (p : Path) {name : String} (h : IsPart name) :
    p.child name = ⟨p.root, p.names ++ [name]⟩ := by
  have hroot : (ofText name).root = "" :=
    ((root_ofText_cases name).resolve_left fun hslash => h.head?_ne hslash.1).2
  have habsolute : (ofText name).isAbsolute = false := by
    rw [isAbsolute, hroot]
    rfl
  rw [child, join, habsolute, if_neg (by decide), names_ofText_name h]

theorem getLast?_child (p : Path) {name : String} (h : IsPart name) :
    (p.child name).text.toList.getLast? ≠ some '/' := by
  rw [child_eq p h]
  exact getLast?_text_append _ _ h

/-- The same for relative paths: the text of one without names is a dot. -/
theorem ofText_relative (hnames : ∀ n ∈ names, IsPart n) :
    ofText (text ⟨"", names⟩) = ⟨"", names⟩ ∧
      (text ⟨"", names⟩).toList.head? ≠ some '/' := by
  induction names using List.reverseRecOn with
  | nil => exact ⟨rfl, by decide⟩
  | append_singleton names n ih =>
    obtain ⟨hnames, hn⟩ := List.forall_mem_append.mp hnames
    have hn := List.forall_mem_singleton.mp hn
    obtain ⟨htext, hhead⟩ := ih hnames
    by_cases hnil : names = []
    · have hsingle : text ⟨"", names ++ [n]⟩ = n := by
        rw [hnil, List.nil_append, text, if_neg (by simp), String.intercalate_singleton,
          String.empty_append]
      have hroot := (root_ofText_cases n).resolve_left fun h => hn.head?_ne h.1
      rw [hsingle]
      refine ⟨Path.ext hroot.2 ?_, hn.head?_ne⟩
      rw [names_ofText_name hn, hnil, List.nil_append]
    · have hjoin : text ⟨"", names ++ [n]⟩ = text ⟨"", names⟩ ++ "/" ++ n := by
        rw [text, if_neg (by simp), text, if_neg (by simpa using hnil),
          String.intercalate_append_of_ne_nil hnil (List.cons_ne_nil _ _),
          String.intercalate_singleton, String.empty_append, String.empty_append]
      have hne : (text ⟨"", names⟩).toList ≠ [] := by
        intro hempty
        rw [ofText, hempty] at htext
        exact hnil (congrArg Path.names htext).symm
      have hstart : (text ⟨"", names ++ [n]⟩).toList.head? ≠ some '/' := by
        rwa [hjoin, String.append_assoc, String.toList_append, List.head?_append_of_ne_nil _ hne]
      refine ⟨Path.ext ((root_ofText_cases _).resolve_left fun h => hstart h.1).2 ?_, hstart⟩
      rw [hjoin, names_ofText_append_slash, htext, names_ofText_name hn]

/-- A slash behind a path's text does not matter. -/
theorem ofText_spelled (hp : p.IsNormal) (slash : Bool) : ofText (p.spelled slash) = p := by
  cases slash with
  | false => exact ofText_text hp
  | true =>
    rw [spelled, if_pos rfl, ofText_joined (head?_text hp.root _) (by decide), ofText_text hp]
    exact Path.ext rfl (List.append_nil _)

theorem names_ofText_slashes {s : List Char} (h : ∀ c ∈ s, c = '/') :
    (ofText (String.ofList s)).names = [] := by
  rw [names_ofText, String.toList_ofList]
  induction s with
  | nil => rfl
  | cons c s ih =>
    obtain ⟨hc, hs⟩ := List.forall_mem_cons.mp h
    rw [splitNames_cons, if_pos hc]
    exact ih hs

/-- The slashes that are cut off do not matter. -/
theorem ofText_trimmed {s : String} (hs : s.toList.head? = some '/') :
    (Glob.trimmed s.toList).head? = some '/' ∧
      ofText (String.ofList (Glob.trimmed s.toList)) = ofText s := by
  rw [Glob.trimmed]
  split
  · rw [String.ofList_toList]
    exact ⟨hs, rfl⟩
  · rename_i hrest
    set kept := s.toList.reverse.dropWhile (· = '/') with hkept
    set cut := s.toList.reverse.takeWhile (· = '/') with hcut
    have hsplit : s.toList = kept.reverse ++ cut.reverse := by
      rw [← List.reverse_append, hkept, hcut, List.takeWhile_append_dropWhile, List.reverse_reverse]
    have hslashes : ∀ c ∈ cut.reverse, c = '/' := fun c hc => by
      simpa using List.mem_takeWhile_imp (List.mem_reverse.mp hc)
    have hne : kept ≠ [] := fun hnil => hrest (by rw [hnil]; rfl)
    have hhead : kept.reverse.head? = some '/' := by
      rw [hsplit, List.head?_append_of_ne_nil _ (by simpa using hne)] at hs
      exact hs
    have hlast : kept.reverse.getLast? ≠ some '/' := by
      rw [List.getLast?_reverse]
      intro hstart
      have hstop := List.head?_dropWhile_not (fun c => decide (c = '/')) s.toList.reverse
      rw [← hkept, hstart] at hstop
      exact absurd hstop (by decide)
    have htext : s = String.ofList kept.reverse ++ String.ofList cut.reverse := by
      rw [← String.ofList_append, ← hsplit, String.ofList_toList]
    refine ⟨hhead, ?_⟩
    rw [htext]
    refine (Path.ext ?_ ?_).symm
    · exact root_ofText_append (by simpa using hhead) (.inr (by simpa using hlast))
    · cases hslash : cut.reverse with
      | nil => rw [String.ofList_nil, String.append_empty]
      | cons c cs =>
        rw [hslash, List.forall_mem_cons] at hslashes
        have hcons : String.ofList (c :: cs) = "/" ++ String.ofList cs := by
          rw [hslashes.1, ← List.singleton_append, String.ofList_append]
        rw [hcons, ← String.append_assoc, names_ofText_append_slash,
          names_ofText_slashes hslashes.2, List.append_nil]

/-- **A text is cut before its last name**, and nothing of its normal form is lost. -/
theorem ofText_splitLast {s : String} (hs : s.toList.head? = some '/') :
    (Glob.splitLast s).1.toList.head? = some '/' ∧ '/' ∉ (Glob.splitLast s).2.toList ∧
      ofText s = ⟨(ofText (Glob.splitLast s).1).root,
        (ofText (Glob.splitLast s).1).names ++ (ofText (Glob.splitLast s).2).names⟩ := by
  obtain ⟨before, after, hsplit, hafter⟩ :=
    List.eq_append_cons_of_mem (List.mem_reverse.mpr (List.mem_of_mem_head? hs))
  obtain ⟨b, a, rfl, hb, ha⟩ : ∃ b a : String, s = b ++ a ∧ b.toList.getLast? = some '/' ∧
      '/' ∉ a.toList := by
    refine ⟨String.ofList (after.reverse ++ ['/']), String.ofList before.reverse, ?_, ?_, ?_⟩
    · rw [← String.ofList_append, ← String.toList_inj, String.toList_ofList,
        ← List.reverse_reverse s.toList, hsplit]
      simp
    · rw [String.toList_ofList, List.getLast?_concat]
    · rw [String.toList_ofList, List.mem_reverse]
      exact hafter
  have hhead : b.toList.head? = some '/' := by
    rw [String.toList_append, List.head?_append_of_ne_nil] at hs
    · exact hs
    · rintro hnil
      rw [hnil] at hb
      cases hb
  have hname : a.toList.head? ≠ some '/' := fun h => ha (List.mem_of_mem_head? h)
  obtain ⟨htrimmed, htext⟩ := ofText_trimmed hhead
  rw [Glob.splitLast_append ha hb]
  dsimp only
  rw [String.toList_ofList, htext]
  exact ⟨htrimmed, ha, Path.ext (root_ofText_append hhead (.inl hname)) (names_ofText_append hb a)⟩

end Path

namespace FileTree

/-! ### The places of paths -/

/-- Names that lead nowhere may be left out. -/
theorem walk_filter (here : Place) (names : List String) :
    walk here (names.filter fun n => !(n = "." || n = "")) = walk here names := by
  induction names generalizing here with
  | nil => rfl
  | cons n names ih =>
    by_cases hskip : (n = "." || n = "") = true
    · rw [List.filter_cons_of_neg (by simp [hskip]), ih, walk.eq_2 here n names, if_pos hskip]
    · rw [List.filter_cons_of_pos (by simpa using hskip), walk.eq_2, if_neg hskip, ih, ih,
        walk.eq_2 here n names, if_neg hskip]

theorem walk_append (here : Place) (a b : List String) :
    walk here (a ++ b) = walk (walk here a) b := by
  induction a generalizing here with
  | nil => rfl
  | cons n a ih =>
    rw [List.cons_append, walk.eq_2, walk.eq_2 here n a, ih, ih, ih]
    split
    · rfl
    · split <;> rfl

theorem walk_names {names : List String} (h : ∀ n ∈ names, Path.IsName n) (here : Place) :
    walk here names = here ++ names := by
  induction names generalizing here with
  | nil => exact (List.append_nil _).symm
  | cons n names ih =>
    obtain ⟨hn, hnames⟩ := List.forall_mem_cons.mp h
    rw [walk.eq_2, if_neg (by simp [hn.ne_dot, hn.ne_empty]), if_neg hn.ne_dots, ih hnames,
      List.append_assoc, List.singleton_append]

theorem names_ofText_eq_filter (s : String) : (Path.ofText s).names =
    ((splitNames s.toList).map String.ofList).filter fun n => !(n = "." || n = "") := by
  rw [Path.names_ofText, List.filter_map]
  refine congrArg _ (List.filter_congr fun n _ => ?_)
  have hempty : String.ofList n = "" ↔ n = [] := by
    rw [← String.toList_inj, String.toList_ofList]
    rfl
  have hdot : String.ofList n = "." ↔ n = ['.'] := by
    rw [← String.toList_inj, String.toList_ofList]
    rfl
  rw [Bool.eq_iff_iff, Function.comp_apply]
  simp only [Bool.and_eq_true, Bool.not_eq_true', List.isEmpty_eq_false_iff, Bool.or_eq_false_iff,
    decide_eq_true_eq, decide_eq_false_iff_not, hempty, hdot]
  exact and_comm

/-- Where an absolute path leads is a matter of its names. -/
theorem placeOf_eq_walk {s : String} (hs : s.toList.head? = some '/') (here : Place) :
    placeOf here s = walk [] (Path.ofText s).names := by
  rw [placeOf, if_pos hs, names_ofText_eq_filter, walk_filter]

/-- The names in a path's text are its own, with empty ones before them. -/
theorem splitNames_text {p : Path} (hp : p.IsResolved) : ∃ k,
    (splitNames p.text.toList).map String.ofList = List.replicate k "" ++ p.names := by
  obtain ⟨root, names⟩ := p
  obtain ⟨hroot, hnames⟩ := hp
  dsimp only at hroot hnames
  induction names using List.reverseRecOn with
  | nil =>
    rw [Path.text_root hroot]
    rcases hroot with rfl | rfl
    · exact ⟨2, rfl⟩
    · exact ⟨3, rfl⟩
  | append_singleton names n ih =>
    obtain ⟨hnames, hn⟩ := List.forall_mem_append.mp hnames
    have hslash := (List.forall_mem_singleton.mp hn).no_slash
    by_cases hnil : names = []
    · rw [hnil, List.nil_append, Path.text_singleton hroot, String.toList_append]
      have hsplit : splitNames ('/' :: n.toList) = [[], n.toList] := by
        rw [splitNames_cons, if_pos rfl, splitNames_of_not_mem hslash]
      rcases hroot with rfl | rfl
      · refine ⟨1, ?_⟩
        change (splitNames ('/' :: n.toList)).map _ = _
        rw [hsplit]
        simp
      · refine ⟨2, ?_⟩
        change (splitNames ('/' :: '/' :: n.toList)).map _ = _
        rw [splitNames_cons, if_pos rfl, hsplit]
        simp [List.replicate_succ]
    · obtain ⟨k, hk⟩ := ih hnames
      refine ⟨k, ?_⟩
      have htext : (Path.text ⟨root, names⟩ ++ "/" ++ n).toList =
          (Path.text ⟨root, names⟩).toList ++ '/' :: n.toList := by
        rw [String.append_assoc, String.toList_append, String.toList_append]
        rfl
      rw [Path.text_append hroot hnil, htext, splitNames_append_slash,
        splitNames_of_not_mem hslash, List.map_append, hk]
      simp

/-- A slash behind a path's text adds an empty name, if anything. -/
theorem splitNames_spelled {p : Path} (hp : p.IsResolved) (slash : Bool) :
    ∃ k trail, (slash = false → trail = []) ∧ (trail = [] ∨ trail = [""]) ∧
      (splitNames (p.spelled slash).toList).map String.ofList =
        List.replicate k "" ++ (p.names ++ trail) := by
  obtain ⟨k, hk⟩ := splitNames_text hp
  cases slash with
  | false => exact ⟨k, [], fun _ => rfl, .inl rfl, by rw [List.append_nil]; exact hk⟩
  | true =>
    rw [Path.spelled, if_pos rfl, Glob.joined_empty (Path.text_ne_empty hp.root p.names)]
    split
    · exact ⟨k, [], nofun, .inl rfl, by rw [List.append_nil]; exact hk⟩
    · refine ⟨k, [""], nofun, .inr rfl, ?_⟩
      rw [String.toList_append]
      change (splitNames (p.text.toList ++ '/' :: [])).map _ = _
      rw [splitNames_append_slash, List.map_append, hk, List.append_assoc]
      rfl

end FileTree

end StepFlow
