import StepFlow.Text.Chars
import Mathlib.Data.List.DropRight

/-!
# Trimming

Trimming takes the blanks from both ends of a text and leaves what is between them. So a text is its
trimmed form with blanks around it, and blanks that are put around a text make no difference to its
trimmed form.

## Main results

* `exists_eq_append_trim` — a text is its trimmed form between blanks
* `trim_blank_append`, `trim_append_blank` — blanks around a text do not count
* `trim_trim` — nothing is left to be trimmed
-/

namespace StepFlow.Text

variable {cs : List Char}

/-! ### The end of a text -/

theorem dropWhile_blank (h : ∀ c ∈ cs, isBlank c = true) : cs.dropWhile isBlank = [] :=
  List.dropWhile_eq_nil_iff.mpr h

/-- Trimming at the end is dropping the last blanks. -/
theorem trimRight_eq_rdropWhile (cs : List Char) : trimRight cs = cs.rdropWhile isBlank := rfl

theorem trimRight_append_blank (cs : List Char) {after : List Char}
    (h : ∀ c ∈ after, isBlank c = true) : trimRight (cs ++ after) = trimRight cs := by
  have hrev : ∀ c ∈ after.reverse, isBlank c = true := by simpa using h
  rw [trimRight, List.reverse_append, List.dropWhile_append_of_pos hrev, trimRight]

/-- The first character stays if it is no blank. -/
theorem trimRight_cons {c : Char} (h : isBlank c = false) (cs : List Char) :
    trimRight (c :: cs) = c :: trimRight cs := by
  rw [trimRight, List.reverse_cons, List.dropWhile_append]
  split
  · rename_i hempty
    have hnil : cs.reverse.dropWhile isBlank = [] := List.isEmpty_iff.mp hempty
    simp [trimRight, hnil, h]
  · simp [trimRight]

theorem exists_eq_trimRight_append (cs : List Char) :
    ∃ after, (∀ c ∈ after, isBlank c = true) ∧ cs = trimRight cs ++ after := by
  refine ⟨cs.rtakeWhile isBlank, fun c hc => List.mem_rtakeWhile_imp hc, ?_⟩
  rw [trimRight_eq_rdropWhile, List.rdropWhile_append_rtakeWhile]

/-! ### Both ends -/

theorem trim_blank_append {before : List Char} (h : ∀ c ∈ before, isBlank c = true)
    (cs : List Char) : trim (before ++ cs) = trim cs := by
  rw [trim, List.dropWhile_append_of_pos h, trim]

theorem trim_append_blank (cs : List Char) {after : List Char}
    (h : ∀ c ∈ after, isBlank c = true) : trim (cs ++ after) = trim cs := by
  rw [trim, List.dropWhile_append]
  split
  · rename_i hempty
    rw [trim, List.isEmpty_iff.mp hempty, dropWhile_blank h]
  · rw [trimRight_append_blank _ h, trim]

/-- **A text is its trimmed form between blanks.** -/
theorem exists_eq_append_trim (cs : List Char) :
    ∃ before after, (∀ c ∈ before, isBlank c = true) ∧ (∀ c ∈ after, isBlank c = true) ∧
      cs = before ++ (trim cs ++ after) := by
  obtain ⟨after, hafter, heq⟩ := exists_eq_trimRight_append (cs.dropWhile isBlank)
  refine ⟨cs.takeWhile isBlank, after, fun c hc => List.mem_takeWhile_imp hc, hafter, ?_⟩
  rw [trim, ← heq, List.takeWhile_append_dropWhile]

theorem mem_of_mem_trim {c : Char} (h : c ∈ trim cs) : c ∈ cs := by
  obtain ⟨before, after, -, -, heq⟩ := exists_eq_append_trim cs
  rw [heq]
  exact List.mem_append_right _ (List.mem_append_left _ h)

/-- A text that begins with no blank is trimmed at its end only. -/
theorem trim_cons {c : Char} (h : isBlank c = false) (cs : List Char) :
    trim (c :: cs) = c :: trimRight cs := by
  rw [trim, List.dropWhile_cons_of_neg (by simp [h]), trimRight_cons h]

theorem trim_trim (cs : List Char) : trim (trim cs) = trim cs := by
  have hend (cs : List Char) : trimRight (trimRight cs) = trimRight cs := by
    simp only [trimRight_eq_rdropWhile]
    exact List.rdropWhile_idempotent isBlank cs
  cases hdrop : cs.dropWhile isBlank with
  | nil => rw [trim, trim, hdrop]; rfl
  | cons c rest =>
    have hc : isBlank c = false := by
      have := List.head?_dropWhile_not isBlank cs
      rw [hdrop] at this
      simpa using this
    have htrim : trim cs = c :: trimRight rest := by rw [trim, hdrop, trimRight_cons hc]
    rw [htrim, trim_cons hc, hend]

/-- A text without blanks at its ends is left as it is. -/
theorem trim_of_ends {a b : Char} (ha : isBlank a = false) (hb : isBlank b = false)
    (cs : List Char) : trim (a :: (cs ++ [b])) = a :: (cs ++ [b]) := by
  rw [trim_cons ha, trimRight_eq_rdropWhile, List.rdropWhile_concat_neg _ _ _ (by simp [hb])]

/-- A text without any blanks is left as it is. -/
theorem trim_of_not_blank (h : ∀ c ∈ cs, isBlank c = false) : trim cs = cs := by
  have hkeep {cs : List Char} (hcs : ∀ c ∈ cs, isBlank c = false) : cs.dropWhile isBlank = cs := by
    cases cs with
    | nil => rfl
    | cons c cs => simp [hcs c List.mem_cons_self]
  have hrev : ∀ c ∈ cs.reverse, isBlank c = false := by simpa using h
  rw [trim, hkeep h, trimRight, hkeep hrev, List.reverse_reverse]

end StepFlow.Text
