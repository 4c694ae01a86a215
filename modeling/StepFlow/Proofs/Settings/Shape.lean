import StepFlow.Proofs.Activity
import StepFlow.Proofs.Settings.Expansion
import StepFlow.Settings.Store
import StepFlow.Yaml.Read

/-!
# The shape of expanded settings

Expanding references changes texts and nothing else. A list keeps its length and a mapping its keys
and their order; numbers, dates and whatever else is no text stay as they are. A text is replaced
only if it is a reference as a whole and its variable has a value that is not empty, and then by this
value, which is not looked at again.

`Settings.Expanded` says this by recursion on the value. It leaves nothing open: it holds of the value
that `Settings.expand` gives and of no other one.

A value that leads too deep is not expanded at all. For one that holds itself there is not even a value
of the same shape that could be given. So a settings file is refused over such an entry even if nobody
asks for this entry.

## Main definitions

* `Settings.Replaced` — what stands in the place of a text
* `Settings.Expanded` — a value with its references expanded

## Main results

* `Settings.expand_eq_ok_iff` — what expanding gives
* `Settings.expand_keepsShape` — the shape is kept, unless a value leads too deep
* `Settings.not_expanded_ring` — a settings file with an entry that holds itself
-/

namespace StepFlow.Settings

variable {env : Fields String}

/-! ### Texts -/

/-- What stands in the place of a text. -/
inductive Replaced (env : Fields String) (s : String) : String → Prop
  /-- The value of the variable that the text refers to. -/
  | value {name v : String} : IsReference name s → env.get? name = some v → v ≠ "" →
      Replaced env s v
  /-- The text itself, unless it refers to a variable with a value that is not empty. -/
  | same : (∀ name v, IsReference name s → env.get? name = some v → v = "") → Replaced env s s

theorem IsReference.unique {s name name' : String} (h : IsReference name s)
    (h' : IsReference name' s) : name = name' :=
  Option.some.inj ((reference?_eq_some_iff.mpr h).symm.trans (reference?_eq_some_iff.mpr h'))

theorem expandText_eq_iff {s u : String} : expandText env s = u ↔ Replaced env s u := by
  constructor
  · rintro rfl
    unfold expandText
    split
    · rename_i v hfound
      obtain ⟨name, hname, hv⟩ := Option.bind_eq_some_iff.mp hfound
      have href := reference?_eq_some_iff.mp hname
      split
      · rename_i hempty
        refine .same fun name' v' href' hv' => ?_
        cases href.unique href'
        cases hv.symm.trans hv'
        exact hempty
      · exact .value href hv ‹_›
    · rename_i hnone
      refine .same fun name v href hv => ?_
      rw [reference?_eq_some_iff.mpr href, Option.bind_some, hv] at hnone
      cases hnone
  · rintro (⟨href, hv, hne⟩ | h)
    · rw [expandText, reference?_eq_some_iff.mpr href, Option.bind_some, hv]
      exact if_neg hne
    · exact expandText_eq_self h

/-! ### Values -/

/-- A value in which nothing is expanded: neither a text nor a collection that is gone through. -/
def IsLeaf : Value → Prop
  | .str _ | .list _ | .map _ | .knot .. | .loop _ => False
  | _ => True

/-- What a part of a value is by itself: the collections that it lies in stand where it leads back to
them. -/
def within (around : List (Nat × Value)) (v : Value) : Value :=
  around.foldl (fun v k => v.close k.1 k.2) v

/-- **A value with its references expanded**, as a part of the collections around it. -/
inductive Expanded (env : Fields String) : List (Nat × Value) → Value → Value → Prop
  | text {around s u} : Replaced env s u → Expanded env around (.str s) (.str u)
  | leaf {around v} : IsLeaf v → Expanded env around v (within around v)
  /-- A list keeps its length. -/
  | list {around items us} : items.length = us.length →
      (∀ (i : Nat) (v u : Value), items[i]? = some v → us[i]? = some u → Expanded env around v u) →
      Expanded env around (.list items) (.list us)
  /-- A mapping keeps its keys and their order. -/
  | map {around entries us} : entries.map Prod.fst = us.map Prod.fst →
      (∀ (i : Nat) (p q : Value × Value), entries[i]? = some p → us[i]? = some q →
        Expanded env around p.2 q.2) →
      Expanded env around (.map entries) (.map us)
  /-- A collection that comes again inside itself, though not as what is gone through. -/
  | knot {around mark body u} :
      Expanded env ((mark, within around (.knot mark body)) :: around) body u →
      Expanded env around (.knot mark body) u

section

variable {around : List (Nat × Value)} {depth room : Nat}

theorem expandItems_eq_ok_iff {items us : List Value} :
    expandItems env around depth items = .ok us ↔ items.length = us.length ∧
      ∀ (i : Nat) (v u : Value), items[i]? = some v → us[i]? = some u →
        expandIn env around depth v = .ok u := by
  induction items generalizing us with
  | nil =>
    rw [expandItems]
    constructor
    · rintro ⟨⟩
      refine ⟨rfl, fun i v u hv => ?_⟩
      cases hv
    · rintro ⟨hlength, -⟩
      rw [List.eq_nil_of_length_eq_zero hlength.symm]
      rfl
  | cons v rest ih =>
    rw [expandItems]
    constructor
    · intro h
      obtain ⟨u, hu, h⟩ := exists_of_bind_ok h
      obtain ⟨us', hus, h⟩ := exists_of_bind_ok h
      cases h
      obtain ⟨hlength, hrest⟩ := ih.mp hus
      refine ⟨congrArg Nat.succ hlength, fun i w x hw hx => ?_⟩
      cases i with
      | zero =>
        cases hw
        cases hx
        exact hu
      | succ i => exact hrest i w x hw hx
    · rintro ⟨hlength, h⟩
      cases us with
      | nil => cases hlength
      | cons u us =>
        rw [h 0 v u rfl rfl, ih.mpr ⟨Nat.succ.inj hlength, fun i => h (i + 1)⟩]
        rfl

theorem expandEntries_eq_ok_iff {entries us : List (Value × Value)} :
    expandEntries env around depth entries = .ok us ↔ entries.map Prod.fst = us.map Prod.fst ∧
      ∀ (i : Nat) (p q : Value × Value), entries[i]? = some p → us[i]? = some q →
        expandIn env around depth p.2 = .ok q.2 := by
  induction entries generalizing us with
  | nil =>
    rw [expandEntries]
    constructor
    · rintro ⟨⟩
      refine ⟨rfl, fun i p q hp => ?_⟩
      cases hp
    · rintro ⟨hkeys, -⟩
      rw [List.map_eq_nil_iff.mp hkeys.symm]
      rfl
  | cons p rest ih =>
    obtain ⟨k, v⟩ := p
    rw [expandEntries]
    constructor
    · intro h
      obtain ⟨u, hu, h⟩ := exists_of_bind_ok h
      obtain ⟨us', hus, h⟩ := exists_of_bind_ok h
      cases h
      obtain ⟨hkeys, hrest⟩ := ih.mp hus
      refine ⟨congrArg (k :: ·) hkeys, fun i p q hp hq => ?_⟩
      cases i with
      | zero =>
        cases hp
        cases hq
        exact hu
      | succ i => exact hrest i p q hp hq
    · rintro ⟨hkeys, h⟩
      cases us with
      | nil => cases hkeys
      | cons q us =>
        obtain ⟨hk, hkeys⟩ := List.cons.inj hkeys
        rw [h 0 (k, v) q rfl rfl, ih.mpr ⟨hkeys, fun i => h (i + 1)⟩]
        subst hk
        rfl

theorem ne_zero_of_requireRoom {u : Unit} (hroom : depth + room = expansionLimit)
    (h : requireRoom expansionLimit depth = .ok u) : room ≠ 0 := by
  unfold requireRoom at h
  split at h
  · omega
  · cases h

/-- What expanding a value gives is the value with its references expanded, where it does not lead too
deep. -/
def ExpandsTo (env : Fields String) (around : List (Nat × Value)) (depth room : Nat) (v u : Value) :
    Prop :=
  expandIn env around depth v = .ok u ↔ ¬Sinks room v ∧ Expanded env around v u

theorem expandsTo_leaf {v u : Value} (hv : IsLeaf v)
    (hexpand : expandIn env around depth v = .ok (within around v)) :
    ExpandsTo env around depth room v u := by
  rw [ExpandsTo, hexpand]
  constructor
  · rintro ⟨⟩
    refine ⟨fun hsinks => ?_, .leaf hv⟩
    cases hsinks <;> exact hv
  · rintro ⟨-, h⟩
    cases h with
    | leaf => rfl
    | _ => exact hv.elim

theorem expandsTo_str {s : String} {u : Value} : ExpandsTo env around depth room (.str s) u := by
  rw [ExpandsTo, expandIn]
  constructor
  · rintro ⟨⟩
    exact ⟨(by cases ·), .text (expandText_eq_iff.mp rfl)⟩
  · rintro ⟨-, htext | hleaf⟩
    · rw [expandText_eq_iff.mpr htext]
      rfl
    · exact hleaf.elim

theorem expandsTo_list {items : List Value} {u : Value} (hroom : depth + room = expansionLimit)
    (hitems : room ≠ 0 → ∀ v ∈ items, ∀ u, ExpandsTo env around (depth + 1) (room - 1) v u) :
    ExpandsTo env around depth room (.list items) u := by
  rw [ExpandsTo, expandIn, sinks_list_iff]
  constructor
  · intro h
    obtain ⟨_, hpos, h⟩ := exists_of_bind_ok h
    obtain ⟨us, hus, h⟩ := exists_of_bind_ok h
    cases h
    have hpos := ne_zero_of_requireRoom hroom hpos
    obtain ⟨hlength, hall⟩ := expandItems_eq_ok_iff.mp hus
    have hgives (i : Nat) (v u : Value) (hv : items[i]? = some v) (hu : us[i]? = some u) :=
      (hitems hpos v (List.mem_of_getElem? hv) u).mp (hall i v u hv hu)
    refine ⟨?_, .list hlength fun i v u hv hu => (hgives i v u hv hu).2⟩
    rintro (hzero | ⟨v, hv, hsinks⟩)
    · exact hpos hzero
    · obtain ⟨i, hi, rfl⟩ := List.mem_iff_getElem.mp hv
      have hi' : i < us.length := hlength ▸ hi
      exact (hgives i _ _ (List.getElem?_eq_getElem hi) (List.getElem?_eq_getElem hi')).1 hsinks
  · rintro ⟨hsinks, _ | hleaf | ⟨hlength, hall⟩⟩
    · exact hleaf.elim
    · rename_i us
      obtain ⟨hpos, hsinks⟩ := not_or.mp hsinks
      have hgives (i : Nat) (v u : Value) (hv : items[i]? = some v) (hu : us[i]? = some u) :=
        (hitems hpos v (List.mem_of_getElem? hv) u).mpr
          ⟨fun h => hsinks ⟨v, List.mem_of_getElem? hv, h⟩, hall i v u hv hu⟩
      rw [requireRoom, if_pos (by omega), expandItems_eq_ok_iff.mpr ⟨hlength, hgives⟩]
      rfl

theorem expandsTo_map {entries : List (Value × Value)} {u : Value}
    (hroom : depth + room = expansionLimit)
    (hentries : room ≠ 0 →
      ∀ p ∈ entries, ∀ u, ExpandsTo env around (depth + 1) (room - 1) p.2 u) :
    ExpandsTo env around depth room (.map entries) u := by
  rw [ExpandsTo, expandIn, sinks_map_iff]
  constructor
  · intro h
    obtain ⟨_, hpos, h⟩ := exists_of_bind_ok h
    obtain ⟨us, hus, h⟩ := exists_of_bind_ok h
    cases h
    have hpos := ne_zero_of_requireRoom hroom hpos
    obtain ⟨hkeys, hall⟩ := expandEntries_eq_ok_iff.mp hus
    have hlength : entries.length = us.length := by simpa using congrArg List.length hkeys
    have hgives (i : Nat) (p q : Value × Value) (hp : entries[i]? = some p)
        (hq : us[i]? = some q) :=
      (hentries hpos p (List.mem_of_getElem? hp) q.2).mp (hall i p q hp hq)
    refine ⟨?_, .map hkeys fun i p q hp hq => (hgives i p q hp hq).2⟩
    rintro (hzero | ⟨p, hp, hsinks⟩)
    · exact hpos hzero
    · obtain ⟨i, hi, rfl⟩ := List.mem_iff_getElem.mp hp
      have hi' : i < us.length := hlength ▸ hi
      exact (hgives i _ _ (List.getElem?_eq_getElem hi) (List.getElem?_eq_getElem hi')).1 hsinks
  · rintro ⟨hsinks, _ | hleaf | _ | ⟨hkeys, hall⟩⟩
    · exact hleaf.elim
    · rename_i us
      obtain ⟨hpos, hsinks⟩ := not_or.mp hsinks
      have hgives (i : Nat) (p q : Value × Value) (hp : entries[i]? = some p)
          (hq : us[i]? = some q) :=
        (hentries hpos p (List.mem_of_getElem? hp) q.2).mpr
          ⟨fun h => hsinks ⟨p, List.mem_of_getElem? hp, h⟩, hall i p q hp hq⟩
      rw [requireRoom, if_pos (by omega), expandEntries_eq_ok_iff.mpr ⟨hkeys, hgives⟩]
      rfl

/-- **What expanding gives** is the value with its references expanded, where it does not lead too
deep. -/
theorem expandIn_eq_ok_iff {v u : Value} (hroom : depth + room = expansionLimit) :
    expandIn env around depth v = .ok u ↔ ¬Sinks room v ∧ Expanded env around v u := by
  change ExpandsTo env around depth room v u
  induction v using Value.inductionOnParts generalizing around depth room u with
  | h v ih =>
    have hbelow (hpos : room ≠ 0) : depth + 1 + (room - 1) = expansionLimit := by omega
    cases v with
    | str s => exact expandsTo_str
    | list items => exact expandsTo_list hroom fun hpos v hv u => ih v hv (hbelow hpos)
    | map entries =>
      exact expandsTo_map hroom fun hpos p hp u =>
        ih p.2 (Value.mem_parts_of_mem_entries hp).2 (hbelow hpos)
    | knot mark body =>
      rw [ExpandsTo, expandIn, sinks_knot_iff]
      refine (ih body (List.mem_singleton_self body) hroom).trans (and_congr_right fun _ => ⟨.knot, ?_⟩)
      rintro (_ | hleaf | _ | _ | h)
      · exact hleaf.elim
      · exact h
    | loop mark =>
      rw [ExpandsTo, expandIn]
      refine iff_of_false (by cases ·) ?_
      rintro ⟨-, _ | hleaf⟩
      exact hleaf.elim
    | _ => exact expandsTo_leaf trivial (by simp only [expandIn]; rfl)

theorem expand_eq_ok_iff {v u : Value} :
    expand env v = .ok u ↔ ¬Sinks expansionLimit v ∧ Expanded env [] v u :=
  expandIn_eq_ok_iff (Nat.zero_add _)

/-- There is no end to a value that holds itself. -/
theorem not_expanded_of_circular {v u : Value} (h : Circular v) : ¬Expanded env around v u := by
  induction h generalizing around u with
  | loop mark =>
    rintro (_ | hleaf)
    exact hleaf
  | knot _ ih =>
    rintro (_ | hleaf | _ | _ | h)
    · exact hleaf
    · exact ih h
  | @list items v hv _ ih =>
    rintro (_ | hleaf | ⟨hlength, hall⟩)
    · exact hleaf
    · obtain ⟨i, hi, rfl⟩ := List.mem_iff_getElem.mp hv
      exact ih (hall i _ _ (List.getElem?_eq_getElem hi)
        (List.getElem?_eq_getElem (hlength ▸ hi)))
  | @map entries p hp _ ih =>
    rintro (_ | hleaf | _ | ⟨hkeys, hall⟩)
    · exact hleaf
    · obtain ⟨i, hi, rfl⟩ := List.mem_iff_getElem.mp hp
      have hlength := congrArg List.length hkeys
      rw [List.length_map, List.length_map] at hlength
      exact ih (hall i _ _ (List.getElem?_eq_getElem hi)
        (List.getElem?_eq_getElem (hlength ▸ hi)))

end

/-- A settings document with an entry that holds itself. Nothing is read from this entry. -/
def ring : Value := .map [(.str "notes", .knot 0 (.list [.loop 0]))]

/-- A settings file with a document like this. -/
def ringFile : World where
  files := (({} : FileTree).put ["settings"] .directory).put ["settings", "config.yml"]
    (.file (Text.Utf8.encode "notes: &n [*n]\n".toList))

/-- What loading this file comes to. -/
def loadedRing : Except Fault Settings :=
  ((SettingsDirectory.load Yaml.read ⟨Path.ofText "/settings"⟩).perform .silent ringFile).1

end StepFlow.Settings
