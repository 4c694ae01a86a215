import StepFlow.Text.Pieces
import Mathlib.Data.List.TakeDrop

/-!
# Replacing references

What `substitute` makes of a text is found from left to right: a stretch in which no reference
begins is left as it is, and a reference at the beginning gives its value. `replaceAll` is the
substitution of the occurrences of one text.

## Main results

* `substitute_plain`, `substitute_reference` — the two ways in which a text begins
* `substitute_occurrence` — `replaceAll` as a substitution
-/

namespace StepFlow.Text

variable {α ε : Type} {find : List Char → Option (α × Nat)} {value : α → Except ε (List Char)}

/-! ### Beginnings -/

/-- A stretch of characters of one kind, up to one that is of another kind. -/
theorem takeWhile_dropWhile_append {p : Char → Bool} {cs rest : List Char} {c : Char}
    (hcs : ∀ x ∈ cs, p x = true) (hc : p c = false) :
    (cs ++ c :: rest).takeWhile p = cs ∧ (cs ++ c :: rest).dropWhile p = c :: rest := by
  rw [List.takeWhile_append_of_pos hcs, List.dropWhile_append_of_pos hcs]
  simp [hc]

theorem after?_eq_some_iff {start cs rest : List Char} :
    after? start cs = some rest ↔ cs = start ++ rest := by
  induction start generalizing cs with
  | nil => simp [after?]
  | cons s start ih =>
    cases cs with
    | nil => simp [after?]
    | cons c cs =>
      by_cases h : s = c
      · simp [after?, h, ih]
      · simp [after?, h, Ne.symm h]

@[simp] theorem after?_append (start rest : List Char) : after? start (start ++ rest) = some rest :=
  after?_eq_some_iff.mpr rfl

theorem after?_eq_none_iff {start cs : List Char} :
    after? start cs = none ↔ ¬start <+: cs := by
  rw [Option.eq_none_iff_forall_ne_some]
  constructor
  · rintro h ⟨rest, rfl⟩
    exact h rest (after?_append start rest)
  · intro h rest hrest
    exact h ⟨rest, (after?_eq_some_iff.mp hrest).symm⟩

/-- A text that begins with another character does not begin this way. -/
theorem after?_of_ne {s c : Char} (start cs : List Char) (h : s ≠ c) :
    after? (s :: start) (c :: cs) = none := by
  rw [after?, if_neg h]

/-- A text occurs in another one when it is a part of it. -/
theorem occursIn_eq_true_iff {old cs : List Char} : occursIn old cs = true ↔ old <:+: cs := by
  induction cs with
  | nil => rw [occursIn, List.isEmpty_iff, List.infix_nil]
  | cons c cs ih =>
    rw [occursIn, Bool.or_eq_true, ih, List.infix_cons_iff]
    refine or_congr_left ?_
    simp only [Option.isSome_iff_exists, after?_eq_some_iff]
    exact exists_congr fun rest => eq_comm

/-! ### Pieces -/

/-- Characters that are still to be passed over do not count. -/
theorem pieces_eq_drop (find : List Char → Option (α × Nat)) (n : Nat) (cs : List Char) :
    pieces find n cs = pieces find 0 (cs.drop n) := by
  induction n generalizing cs with
  | zero => rfl
  | succ n ih =>
    cases cs with
    | nil => rw [List.drop_nil, pieces, pieces]
    | cons c cs => rw [pieces, List.drop_succ_cons, ih]

/-! ### Substitution -/

@[simp] theorem substitute_nil (find : List Char → Option (α × Nat))
    (value : α → Except ε (List Char)) : substitute find value [] = .ok [] := by
  rw [substitute, pieces]
  rfl

/-- Texts that are found one by one are put together from the first and the others. -/
private theorem mapM_flatten_cons {β : Type} {f : β → Except ε (List Char)} {x : β} {xs : List β}
    {v text : List Char} (hx : f x = .ok v)
    (hxs : (do return (← xs.mapM f).flatten) = Except.ok text) :
    (do return (← (x :: xs).mapM f).flatten) = Except.ok (v ++ text) := by
  rw [List.mapM_cons, hx]
  cases h : xs.mapM f with
  | error e =>
    rw [h] at hxs
    cases hxs
  | ok parts =>
    rw [h] at hxs
    cases hxs
    rfl

/-- A character at which no reference begins is left as it is. -/
theorem substitute_cons {c : Char} {rest text : List Char} (h : find (c :: rest) = none)
    (hrest : substitute find value rest = .ok text) :
    substitute find value (c :: rest) = .ok (c :: text) := by
  rw [substitute, pieces, h]
  change _ = Except.ok ([c] ++ text)
  refine mapM_flatten_cons ?_ hrest
  rfl

/-- A stretch of text in which no reference begins is left as it is. -/
theorem substitute_plain {cs rest text : List Char}
    (h : ∀ c tail, c :: tail <:+ cs → find (c :: (tail ++ rest)) = none)
    (hrest : substitute find value rest = .ok text) :
    substitute find value (cs ++ rest) = .ok (cs ++ text) := by
  induction cs with
  | nil => exact hrest
  | cons c cs ih =>
    refine substitute_cons (h c cs (List.suffix_refl _)) (ih fun d tail hd => ?_)
    exact h d tail (hd.trans (List.suffix_cons c cs))

/-- A reference at the beginning of a text gives its value. -/
theorem substitute_reference {reference rest v text : List Char} {a : α}
    (h : find (reference ++ rest) = some (a, reference.length)) (hne : reference ≠ [])
    (hvalue : value a = .ok v) (hrest : substitute find value rest = .ok text) :
    substitute find value (reference ++ rest) = .ok (v ++ text) := by
  cases reference with
  | nil => exact absurd rfl hne
  | cons c cs =>
    rw [List.cons_append, List.length_cons] at h
    rw [substitute, List.cons_append, pieces, h]
    simp only [pieces_eq_drop find cs.length, List.drop_left]
    exact mapM_flatten_cons hvalue hrest

/-- Where a text occurs. -/
def occurrence (old cs : List Char) : Option (Unit × Nat) :=
  (after? old cs).map fun _ => ((), old.length)

theorem occurrence_append (old rest : List Char) :
    occurrence old (old ++ rest) = some ((), old.length) := by
  rw [occurrence, after?_append]
  rfl

theorem occurrence_eq_none_iff {old cs : List Char} :
    occurrence old cs = none ↔ ¬old <+: cs := by
  rw [occurrence, Option.map_eq_none_iff, after?_eq_none_iff]

/-- Replacing all occurrences of a text substitutes them. -/
theorem substitute_occurrence (old new cs : List Char) :
    substitute (occurrence old) (fun _ => .ok new) cs = (.ok (replaceAll old new cs) : Except ε _) := by
  rw [substitute, replaceAll]
  change _ = Except.ok (List.flatMap _ (pieces (occurrence old) 0 cs))
  generalize pieces (occurrence old) 0 cs = ps
  induction ps with
  | nil => rfl
  | cons p ps ih =>
    rw [List.flatMap_cons]
    refine mapM_flatten_cons ?_ ih
    cases p with
    | inl c => rfl
    | inr u => rfl

/-- A text that is replaced as a whole. -/
theorem replaceAll_self {old : List Char} (h : old ≠ []) (new : List Char) :
    replaceAll old new old = new := by
  have hwhole : substitute (occurrence old) (fun _ => .ok new) (old ++ []) =
      (.ok (new ++ []) : Except Empty (List Char)) :=
    substitute_reference (occurrence_append _ _) h rfl (substitute_nil _ _)
  rw [List.append_nil, List.append_nil, substitute_occurrence] at hwhole
  exact Except.ok.inj hwhole

end StepFlow.Text
