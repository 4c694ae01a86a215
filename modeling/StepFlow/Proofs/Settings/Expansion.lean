import StepFlow.Proofs.Text.Pieces
import StepFlow.Proofs.Value.Text
import StepFlow.Settings.Document
import Mathlib.Data.List.TakeDrop

/-!
# References in settings

A text in a settings document that refers to a variable of the environment stands for its value. Only
a text that is a reference as a whole does so, with at most a line end behind it, and only if the
variable has a value that is not empty; every other text stands for itself.

Texts are looked for in lists and in the values of mappings, up to a certain depth. A value that goes
deeper has no expanded value, and one that holds itself this way has no end at all.

## Main definitions

* `Settings.IsReference` — a text that refers to a variable
* `Settings.Circular` — a value that holds itself
* `Settings.Sinks` — a value that leads deeper than it is followed
* `Settings.Unchanged` — a value stands for itself

## Main results

* `Settings.reference?_eq_some_iff` — the references
* `Settings.expand_expands` — texts are expanded unless a value leads too deep
* `Settings.Sinks.circular_or_deep` — why it does
-/

namespace StepFlow.Settings

variable {α β : Type} {env : Fields String}

/-! ### References -/

/-- A text refers to a variable: the name stands between the signs of a reference, and behind them
there may be a line end. -/
def IsReference (name : String) (s : String) : Prop :=
  name ≠ "" ∧ '\x7d' ∉ name.toList ∧
    (s = "$\x7b" ++ name ++ "\x7d" ∨ s = "$\x7b" ++ name ++ "\x7d\n")

/-- **The references.** -/
theorem reference?_eq_some_iff {s name : String} :
    reference? s = some name ↔ IsReference name s := by
  constructor
  · intro h
    unfold reference? at h
    split at h
    · rename_i rest hs
      rw [List.span_eq_takeWhile_dropWhile] at h
      dsimp only at h
      split at h
      · cases h
      · rename_i hne
        split at h
        · rename_i hend
          cases h
          rw [← List.takeWhile_append_dropWhile (p := (· ≠ '\x7d')) (l := rest)] at hs
          refine ⟨fun hempty => hne ?_, fun hmem => ?_, ?_⟩
          · simpa using congrArg String.toList hempty
          · rw [String.toList_ofList] at hmem
            simpa using List.all_eq_true.mp List.all_takeWhile _ hmem
          · rw [Bool.or_eq_true, decide_eq_true_iff, decide_eq_true_iff] at hend
            refine hend.imp (fun hrest => ?_) fun hrest => ?_
            · rw [hrest] at hs
              exact String.toList_inj.mp (by simpa using hs)
            · rw [hrest] at hs
              exact String.toList_inj.mp (by simpa using hs)
        · cases h
    · cases h
  · rintro ⟨hne, hname, hs⟩
    have hchars : ∀ c ∈ name.toList, decide (c ≠ '\x7d') = true := fun c hc =>
      decide_eq_true fun heq => hname (heq ▸ hc)
    obtain ⟨tail, hs, htail⟩ : ∃ tail, s.toList = '$' :: '\x7b' :: (name.toList ++ '\x7d' :: tail) ∧
        (tail = [] ∨ tail = ['\n']) := by
      rcases hs with rfl | rfl
      · exact ⟨[], by simp, .inl rfl⟩
      · exact ⟨['\n'], by simp, .inr rfl⟩
    have hspan : (name.toList ++ '\x7d' :: tail).span (· ≠ '\x7d') =
        (name.toList, '\x7d' :: tail) := by
      rw [List.span_eq_takeWhile_dropWhile]
      exact Prod.ext_iff.mpr (Text.takeWhile_dropWhile_append hchars (by decide))
    unfold reference?
    rw [hs]
    simp only [hspan, String.ofList_toList]
    rw [if_neg (by simpa using hne), if_pos (by simpa using htail)]

/-- A text that refers to no variable with a value stands for itself. -/
theorem expandText_eq_self {s : String}
    (h : ∀ name v, IsReference name s → env.get? name = some v → v = "") :
    expandText env s = s := by
  unfold expandText
  cases hfound : (reference? s).bind env.get? with
  | none => rfl
  | some v =>
    obtain ⟨name, hname, hv⟩ := Option.bind_eq_some_iff.mp hfound
    exact if_pos (h name v (reference?_eq_some_iff.mp hname) hv)

/-! ### Values that hold themselves -/

/-- A value holds itself, through lists and through values of mappings. -/
inductive Circular : Value → Prop
  | loop (mark : Nat) : Circular (.loop mark)
  | knot {mark : Nat} {body : Value} : Circular body → Circular (.knot mark body)
  | list {items : List Value} {v : Value} : v ∈ items → Circular v → Circular (.list items)
  | map {entries : List (Value × Value)} {p : Value × Value} : p ∈ entries → Circular p.2 →
      Circular (.map entries)

/-- **A value leads deeper than it is followed**, through lists and through values of mappings: to a
collection for which there is no room any more, or around for ever. -/
inductive Sinks : Nat → Value → Prop
  | loop {room : Nat} (mark : Nat) : Sinks room (.loop mark)
  | knot {room mark : Nat} {body : Value} : Sinks room body → Sinks room (.knot mark body)
  | fullList (items : List Value) : Sinks 0 (.list items)
  | fullMap (entries : List (Value × Value)) : Sinks 0 (.map entries)
  | list {room : Nat} {items : List Value} {v : Value} : v ∈ items → Sinks room v →
      Sinks (room + 1) (.list items)
  | map {room : Nat} {entries : List (Value × Value)} {p : Value × Value} : p ∈ entries →
      Sinks room p.2 → Sinks (room + 1) (.map entries)

theorem sinks_list_iff {room : Nat} {items : List Value} :
    Sinks room (.list items) ↔ room = 0 ∨ ∃ v ∈ items, Sinks (room - 1) v := by
  constructor
  · rintro (_ | _ | _ | _ | ⟨hv, h⟩)
    · exact .inl rfl
    · exact .inr ⟨_, hv, h⟩
  · cases room with
    | zero => exact fun _ => .fullList items
    | succ room => exact fun h => have ⟨_, hv, h⟩ := h.resolve_left (Nat.succ_ne_zero _); .list hv h

theorem sinks_map_iff {room : Nat} {entries : List (Value × Value)} :
    Sinks room (.map entries) ↔ room = 0 ∨ ∃ p ∈ entries, Sinks (room - 1) p.2 := by
  constructor
  · rintro (_ | _ | _ | _ | _ | ⟨hp, h⟩)
    · exact .inl rfl
    · exact .inr ⟨_, hp, h⟩
  · cases room with
    | zero => exact fun _ => .fullMap entries
    | succ room => exact fun h => have ⟨_, hp, h⟩ := h.resolve_left (Nat.succ_ne_zero _); .map hp h

theorem sinks_knot_iff {room mark : Nat} {body : Value} :
    Sinks room (.knot mark body) ↔ Sinks room body := by
  refine ⟨?_, .knot⟩
  rintro (_ | h)
  exact h

/-- What holds itself leads too deep, however far it is followed. -/
theorem Circular.sinks {v : Value} (h : Circular v) (room : Nat) : Sinks room v := by
  induction h generalizing room with
  | loop mark => exact .loop mark
  | knot _ ih => exact .knot (ih room)
  | list hv _ ih => exact sinks_list_iff.mpr (room.eq_zero_or_pos.imp_right fun _ => ⟨_, hv, ih _⟩)
  | map hp _ ih => exact sinks_map_iff.mpr (room.eq_zero_or_pos.imp_right fun _ => ⟨_, hp, ih _⟩)

/-- **A value that leads too deep** holds itself, or its collections lie too deep in one another. -/
theorem Sinks.circular_or_deep {room : Nat} {v : Value} (h : Sinks room v) :
    Circular v ∨ room < v.nesting := by
  induction h with
  | loop mark => exact .inl (.loop mark)
  | knot _ ih =>
    rw [Value.nesting]
    exact ih.imp_left .knot
  | fullList items =>
    rw [Value.nesting]
    exact .inr (Nat.succ_pos _)
  | fullMap entries =>
    rw [Value.nesting]
    exact .inr (Nat.succ_pos _)
  | list hv _ ih =>
    have hle := Value.nesting_le_of_mem hv
    rw [Value.nesting]
    exact ih.imp (.list hv) fun hdeep => by omega
  | map hp _ ih =>
    have hle := Value.nesting_le_of_mem_entries hp
    rw [Value.nesting]
    exact ih.imp (.map hp) fun hdeep => by omega

/-- Expanding fails just for what leads too deep. -/
def Expands (sinks : Prop) (r : Except Fault α) : Prop :=
  (sinks ∧ r = .error .tooDeep) ∨ (¬sinks ∧ ∃ v, r = .ok v)

namespace Expands

variable {p q : Prop} {r : Except Fault α}

theorem ok (v : α) : Expands False (.ok v) := .inr ⟨id, v, rfl⟩

theorem error : Expands True (.error .tooDeep : Except Fault α) := .inl ⟨trivial, rfl⟩

theorem congr (h : Expands p r) (hpq : p ↔ q) : Expands q r := by
  rwa [Expands, hpq] at h

/-- What comes next may rely on the first part not having failed. -/
theorem bindOf {f : α → Except Fault β} (h : Expands p r) (hf : ¬p → ∀ v, Expands q (f v)) :
    Expands (p ∨ q) (r >>= f) := by
  rcases h with ⟨hp, rfl⟩ | ⟨hp, v, rfl⟩
  · exact .inl ⟨.inl hp, rfl⟩
  · exact (hf hp v).congr (or_iff_right hp).symm

/-- Two parts are expanded one after the other. -/
theorem bind {f : α → Except Fault β} (h : Expands p r) (hf : ∀ v, Expands q (f v)) :
    Expands (p ∨ q) (r >>= f) := h.bindOf fun _ => hf

end Expands

/-- There is room just where the limit has not been reached. -/
theorem requireRoom_expands {limit depth room : Nat} (hroom : depth + room = limit) :
    Expands (room = 0) (requireRoom limit depth) := by
  unfold requireRoom
  split
  · exact (Expands.ok _).congr (iff_of_false id (by omega))
  · exact Expands.error.congr (iff_of_true trivial (by omega))

section

variable {env : Fields String} {around : List (Nat × Value)} {depth room : Nat}

theorem expandItems_expands {items : List Value}
    (h : ∀ v ∈ items, Expands (Sinks room v) (expandIn env around depth v)) :
    Expands (∃ v ∈ items, Sinks room v) (expandItems env around depth items) := by
  induction items with
  | nil => exact (Expands.ok []).congr (iff_of_false id nofun)
  | cons v rest ih =>
    obtain ⟨hv, hrest⟩ := List.forall_mem_cons.mp h
    rw [expandItems]
    refine (hv.bind fun u => (ih hrest).bind fun us => .ok (u :: us)).congr ?_
    simp only [or_false, List.mem_cons, exists_eq_or_imp]

theorem expandEntries_expands {entries : List (Value × Value)}
    (h : ∀ p ∈ entries, Expands (Sinks room p.2) (expandIn env around depth p.2)) :
    Expands (∃ p ∈ entries, Sinks room p.2) (expandEntries env around depth entries) := by
  induction entries with
  | nil => exact (Expands.ok []).congr (iff_of_false id nofun)
  | cons p rest ih =>
    obtain ⟨k, v⟩ := p
    obtain ⟨hv, hrest⟩ := List.forall_mem_cons.mp h
    rw [expandEntries]
    refine (hv.bind fun u => (ih hrest).bind fun us => .ok ((k, u) :: us)).congr ?_
    simp only [or_false, List.mem_cons, exists_eq_or_imp]

end

theorem expandIn_expands (env : Fields String) (v : Value) (around : List (Nat × Value))
    {depth room : Nat} (hroom : depth + room = expansionLimit) :
    Expands (Sinks room v) (expandIn env around depth v) := by
  induction v using Value.inductionOnParts generalizing around depth room with
  | h v ih =>
    cases v with
    | list items =>
      rw [expandIn, sinks_list_iff]
      refine (requireRoom_expands hroom).bindOf fun hpos _ => ?_
      have hbelow : depth + 1 + (room - 1) = expansionLimit := by omega
      have hitems := expandItems_expands fun v (hv : v ∈ items) => ih v hv around hbelow
      exact (hitems.bind fun us => .ok (Value.list us)).congr (by rw [or_false])
    | map entries =>
      rw [expandIn, sinks_map_iff]
      refine (requireRoom_expands hroom).bindOf fun hpos _ => ?_
      have hbelow : depth + 1 + (room - 1) = expansionLimit := by omega
      have hentries := expandEntries_expands fun p (hp : p ∈ entries) =>
        ih p.2 (Value.mem_parts_of_mem_entries hp).2 around hbelow
      exact (hentries.bind fun us => .ok (Value.map us)).congr (by rw [or_false])
    | knot mark body =>
      rw [expandIn, sinks_knot_iff]
      exact ih body (List.mem_singleton_self body) _ hroom
    | loop mark =>
      rw [expandIn]
      exact Expands.error.congr (iff_of_true trivial (.loop mark))
    | _ =>
      simp only [expandIn]
      exact (Expands.ok _).congr (iff_of_false id nofun)

/-- **Texts are expanded everywhere in a value**, unless it leads too deep. -/
theorem expand_expands (env : Fields String) (v : Value) :
    Expands (Sinks expansionLimit v) (expand env v) :=
  expandIn_expands env v [] (Nat.zero_add _)

/-! ### Values that stand for themselves -/

/-- Nothing is expanded in a value that lies `depth` collections deep. -/
def Unchanged (env : Fields String) (depth : Nat) (v : Value) : Prop :=
  expandIn env [] depth v = .ok v

theorem unchanged_str {depth : Nat} {s : String} (h : expandText env s = s) :
    Unchanged env depth (.str s) := by
  rw [Unchanged, expandIn, h]
  rfl

theorem unchanged_double (depth : Nat) (x : Double) : Unchanged env depth (.double x) := by
  simp only [Unchanged, expandIn]
  rfl

theorem unchanged_map {depth : Nat} {entries : List (Value × Value)} (hdepth : depth < expansionLimit)
    (h : ∀ p ∈ entries, Unchanged env (depth + 1) p.2) : Unchanged env depth (.map entries) := by
  have hentries : expandEntries env [] (depth + 1) entries = .ok entries := by
    induction entries with
    | nil => rfl
    | cons p rest ih =>
      obtain ⟨hp, hrest⟩ := List.forall_mem_cons.mp h
      rw [expandEntries, hp, ih hrest]
      rfl
  rw [Unchanged, expandIn, requireRoom, if_pos hdepth, hentries]
  rfl

end StepFlow.Settings
