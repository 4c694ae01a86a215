import StepFlow.Value.Basic

/-!
# The parts of values

A value is made of values: a list of its elements, a mapping of its keys and values. Two things are
asked of a value all the way down. `Value.Short` says that every integer in it is short enough to be
written, and `Value.nesting` is how many collections lie in one another in it. Both are kept, or get
smaller, by everything that is done to find a part of a document.

A knot holds itself without end. Its nesting is that of its body: whoever follows a value stops where
a knot comes again.

## Main definitions

* `Value.parts` — the values that a value is made of
* `Value.Short` — all integers in a value can be written
* `Value.nesting` — how deep the collections in a value lie in one another

## Main results

* `Value.inductionOnParts` — induction on values by way of their parts
* `Value.Short.opened`, `Value.Short.lookup` — going down in a document
-/

namespace StepFlow

namespace Value

/-! ### The parts of a value -/

/-- The values that a value is made of. -/
def parts : Value → List Value
  | list xs | tuple xs | set xs => xs
  | map kvs => kvs.flatMap fun e => [e.1, e.2]
  | knot _ body => [body]
  | _ => []

theorem mem_parts_of_mem_entries {kvs : List (Value × Value)} {e : Value × Value} (h : e ∈ kvs) :
    e.1 ∈ (map kvs).parts ∧ e.2 ∈ (map kvs).parts :=
  ⟨List.mem_flatMap.mpr ⟨e, h, by simp⟩, List.mem_flatMap.mpr ⟨e, h, by simp⟩⟩

theorem sizeOf_lt_of_mem_parts {v u : Value} (h : u ∈ v.parts) : sizeOf u < sizeOf v := by
  cases v with
  | list xs | tuple xs | set xs =>
    have := List.sizeOf_lt_of_mem (show u ∈ xs from h)
    simp
    omega
  | map kvs =>
    obtain ⟨⟨k, x⟩, he, hu⟩ := List.mem_flatMap.mp h
    have := List.sizeOf_lt_of_mem he
    simp only [Prod.mk.sizeOf_spec] at this
    simp only [List.mem_cons, List.not_mem_nil, or_false] at hu
    rcases hu with rfl | rfl
    all_goals simp only [map.sizeOf_spec]; omega
  | knot mark body =>
    obtain rfl := List.mem_singleton.mp h
    simp only [knot.sizeOf_spec]
    omega
  | _ => cases h

/-- What holds of a value whenever it holds of its parts holds of all values. -/
theorem inductionOnParts {P : Value → Prop} (h : ∀ v : Value, (∀ u ∈ v.parts, P u) → P v)
    (v : Value) : P v :=
  h v fun u _ => inductionOnParts h u
termination_by sizeOf v
decreasing_by exact sizeOf_lt_of_mem_parts ‹_›

/-! ### Integers in a value -/

/-- The integers in a value that do not lie in one of its parts. -/
def integers : Value → List Int
  | int n => [n]
  | action (.retry (.index n) retries delay) => [n, retries, delay]
  | action (.retry (.name _) retries delay) => [retries, delay]
  | _ => []

/-- All integers in a value have at most `digitLimit` digits. -/
inductive Short : Value → Prop
  | intro {v : Value} : (∀ n ∈ v.integers, n.natAbs < tenTo digitLimit) →
    (∀ u ∈ v.parts, u.Short) → Short v

theorem short_iff {v : Value} :
    v.Short ↔ (∀ n ∈ v.integers, n.natAbs < tenTo digitLimit) ∧ ∀ u ∈ v.parts, u.Short :=
  ⟨fun ⟨hn, hu⟩ => ⟨hn, hu⟩, fun h => .intro h.1 h.2⟩

@[simp] theorem short_null : null.Short := .intro (by simp [integers]) (by simp [parts])

@[simp] theorem short_bool (b : Bool) : (bool b).Short :=
  .intro (by simp [integers]) (by simp [parts])

@[simp] theorem short_str (s : String) : (str s).Short :=
  .intro (by simp [integers]) (by simp [parts])

@[simp] theorem short_rough (t : RoughText) : (rough t).Short :=
  .intro (by simp [integers]) (by simp [parts])

@[simp] theorem short_double (x : Double) : (double x).Short :=
  .intro (by simp [integers]) (by simp [parts])

@[simp] theorem short_int_iff {n : Int} : (int n).Short ↔ n.natAbs < tenTo digitLimit := by
  rw [short_iff]
  simp [integers, parts]

@[simp] theorem short_list_iff {xs : List Value} : (list xs).Short ↔ ∀ x ∈ xs, x.Short := by
  rw [short_iff]
  simp [integers, parts]

@[simp] theorem short_map_iff {kvs : List (Value × Value)} :
    (map kvs).Short ↔ ∀ e ∈ kvs, e.1.Short ∧ e.2.Short := by
  rw [short_iff]
  simp only [integers, parts, List.not_mem_nil, List.mem_flatMap, List.mem_cons]
  constructor
  · exact fun h e he => ⟨h.2 e.1 ⟨e, he, .inl rfl⟩, h.2 e.2 ⟨e, he, .inr (.inl rfl)⟩⟩
  · refine fun h => ⟨fun n hn => hn.elim, ?_⟩
    rintro u ⟨e, he, rfl | rfl | hu⟩
    · exact (h e he).1
    · exact (h e he).2
    · exact hu.elim

/-! ### Going down in a document -/

theorem Short.lookup {fields : List (Value × Value)} (h : (map fields).Short) (key : String) :
    (lookup key fields).Short := by
  rw [short_map_iff] at h
  unfold Value.lookup lookup?
  induction fields with
  | nil => exact short_null
  | cons e fields ih =>
    unfold find?
    split
    · exact (h e List.mem_cons_self).2
    · exact ih fun e he => h e (List.mem_cons_of_mem _ he)

theorem closeAll_eq_map (mark : Nat) (whole : Value) (xs : List Value) :
    closeAll mark whole xs = xs.map (close mark whole) := by
  induction xs with
  | nil => rfl
  | cons x xs ih => rw [closeAll, ih, List.map_cons]

theorem closeEntries_eq_map (mark : Nat) (whole : Value) (kvs : List (Value × Value)) :
    closeEntries mark whole kvs = kvs.map fun e => (e.1, close mark whole e.2) := by
  induction kvs with
  | nil => rfl
  | cons e kvs ih => rw [closeEntries, ih, List.map_cons]

/-- Loops are closed with a value whose integers are short. -/
theorem Short.close {v whole : Value} (h : v.Short) (hwhole : whole.Short) (mark : Nat) :
    (close mark whole v).Short := by
  induction h with
  | @intro v hn hu ih =>
    have hsame : v.Short := .intro hn hu
    cases v with
    | loop m =>
      unfold Value.close
      split
      · exact hwhole
      · exact hsame
    | knot m body =>
      unfold Value.close
      split
      · exact hsame
      · exact .intro (by simp [integers]) (by simpa [parts] using ih)
    | list xs =>
      rw [Value.close, closeAll_eq_map]
      exact .intro (by simp [integers]) (by simpa [parts] using ih)
    | tuple xs =>
      rw [Value.close, closeAll_eq_map]
      exact .intro (by simp [integers]) (by simpa [parts] using ih)
    | map kvs =>
      rw [Value.close, closeEntries_eq_map, short_map_iff]
      rw [short_map_iff] at hsame
      rintro _ hmem
      obtain ⟨e, he, rfl⟩ := List.mem_map.mp hmem
      exact ⟨(hsame e he).1, ih e.2 (mem_parts_of_mem_entries he).2⟩
    | _ => exact hsame

/-- One step around a loop. -/
theorem Short.opened {v : Value} (h : v.Short) : v.opened.Short := by
  unfold Value.opened
  split
  · exact ((short_iff.mp h).2 _ (by simp [parts])).close h _
  · exact h

/-! ### How deep the parts lie -/

mutual

/-- How deep the collections in a value lie in one another. -/
def nesting : Value → Nat
  | list xs | tuple xs | set xs => nestingOfItems xs + 1
  | map kvs => nestingOfEntries kvs + 1
  | knot _ body => nesting body
  | _ => 0

def nestingOfItems : List Value → Nat
  | [] => 0
  | x :: xs => max (nesting x) (nestingOfItems xs)

def nestingOfEntries : List (Value × Value) → Nat
  | [] => 0
  | (k, v) :: kvs => max (max (nesting k) (nesting v)) (nestingOfEntries kvs)

end

theorem nestingOfItems_le_iff {xs : List Value} {n : Nat} :
    nestingOfItems xs ≤ n ↔ ∀ x ∈ xs, x.nesting ≤ n := by
  induction xs with
  | nil => simp [nestingOfItems]
  | cons x xs ih => rw [nestingOfItems, Nat.max_le, ih, List.forall_mem_cons]

theorem nestingOfEntries_le_iff {kvs : List (Value × Value)} {n : Nat} :
    nestingOfEntries kvs ≤ n ↔ ∀ e ∈ kvs, e.1.nesting ≤ n ∧ e.2.nesting ≤ n := by
  induction kvs with
  | nil => simp [nestingOfEntries]
  | cons e kvs ih => rw [nestingOfEntries, Nat.max_le, Nat.max_le, ih, List.forall_mem_cons]

theorem nesting_le_of_mem {xs : List Value} {x : Value} (h : x ∈ xs) :
    x.nesting ≤ nestingOfItems xs :=
  nestingOfItems_le_iff.mp (Nat.le_refl _) x h

theorem nesting_le_of_mem_entries {kvs : List (Value × Value)} {e : Value × Value} (h : e ∈ kvs) :
    e.1.nesting ≤ nestingOfEntries kvs ∧ e.2.nesting ≤ nestingOfEntries kvs :=
  nestingOfEntries_le_iff.mp (Nat.le_refl _) e h

theorem nesting_of_lookup? {key : String} {fields : List (Value × Value)} {v : Value}
    (h : lookup? key fields = some v) : v.nesting ≤ nestingOfEntries fields := by
  unfold lookup? at h
  induction fields with
  | nil => cases h
  | cons e fields ih =>
    rw [nestingOfEntries]
    unfold find? at h
    split at h
    · cases h
      omega
    · exact Nat.le_trans (ih h) (Nat.le_max_right _ _)

theorem nesting_lookup_le (key : String) (fields : List (Value × Value)) :
    (lookup key fields).nesting ≤ nestingOfEntries fields := by
  unfold lookup
  cases h : lookup? key fields with
  | none => simp [nesting]
  | some v => exact nesting_of_lookup? h

end Value

end StepFlow
