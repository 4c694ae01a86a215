import StepFlow.Number.Numeral
import StepFlow.Proofs.Text.Trim

/-!
# Numerals made of digits

A numeral may have blanks around it, a sign and underscores. One that is made of digits alone has
nothing of the kind, whatever script the digits are from, so reading it comes down to the value of
its digits.

## Main definitions

* `numberOf` — the number that digits denote

## Main results

* `readInteger_digits` — digits are read as the number that they denote
* `readInteger_ok_iff` — of the signs for digits, only decimal digits are a numeral
-/

namespace StepFlow

open Text (decimalDigit? decimalZeros isBlank isDecimal isDigitLike trim trim_of_not_blank)

/-- The number that decimal digits of any script denote. -/
def numberOf (digits : List Char) : Nat := digitsValue 10 (digits.filterMap decimalDigit?)

/-! ### Single digits -/

/-- A decimal digit is one of ten characters in a row. -/
theorem exists_zero_of_isDecimal {c : Char} (h : isDecimal c = true) :
    ∃ z ∈ decimalZeros, ∃ d < 10, c.toNat = z + d ∧ decimalDigit? c = some d := by
  obtain ⟨d, hd⟩ := Option.isSome_iff_exists.mp h
  obtain ⟨z, hz, rfl⟩ := Option.map_eq_some_iff.mp hd
  have hrange := List.find?_some hz
  simp only [Bool.and_eq_true, decide_eq_true_eq] at hrange
  exact ⟨z, List.mem_of_find?_eq_some hz, c.toNat - z, by omega, by omega, hd⟩

/-- No decimal digit is a blank, a sign or an underscore. -/
theorem isDecimal_plain {c : Char} (h : isDecimal c = true) :
    isBlank c = false ∧ c ≠ '+' ∧ c ≠ '-' ∧ c ≠ '_' := by
  obtain ⟨z, hz, d, hd, hc, -⟩ := exists_zero_of_isDecimal h
  have hplain : ∀ z ∈ decimalZeros, ∀ d < 10, isBlank (.ofNat (z + d)) = false ∧
      Char.ofNat (z + d) ≠ '+' ∧ Char.ofNat (z + d) ≠ '-' ∧ Char.ofNat (z + d) ≠ '_' := by
    decide +kernel
  have := hplain z hz d hd
  rwa [← hc, Char.ofNat_toNat] at this

/-! ### Digit sequences -/

variable {ds : List Char}

theorem separatedDigits?_digits (hne : ds ≠ []) (h : ∀ c ∈ ds, isDecimal c = true) :
    separatedDigits? 10 ds = some (ds.filterMap decimalDigit?) := by
  induction ds with
  | nil => exact absurd rfl hne
  | cons c cs ih =>
    obtain ⟨-, -, d, hd, -, hc⟩ := exists_zero_of_isDecimal (h c List.mem_cons_self)
    have hdigit : digitIn? 10 c = some d := by simp [digitIn?, hc, hd]
    cases cs with
    | nil => simp [separatedDigits?, hdigit, hc]
    | cons c' cs =>
      have hc' : c' ≠ '_' := (isDecimal_plain (h c' (by simp))).2.2.2
      have hrest := ih (by simp) fun x hx => h x (List.mem_cons_of_mem c hx)
      rw [separatedDigits?, hdigit, hrest, List.filterMap_cons_some hc]
      · rfl
      · simp
      · intro rest hrest
        exact hc' (List.cons.inj hrest).1

theorem trim_digits (h : ∀ c ∈ ds, isDecimal c = true) : trim ds = ds :=
  trim_of_not_blank fun c hc => (isDecimal_plain (h c hc)).1

theorem splitSign_of_not_mem (hminus : '-' ∉ ds) (hplus : '+' ∉ ds) :
    splitSign ds = (false, ds) := by
  unfold splitSign
  split
  · exact absurd List.mem_cons_self hminus
  · exact absurd List.mem_cons_self hplus
  · rfl

/-- The base of ten has no mark. -/
theorem withoutBaseMark_ten (ds : List Char) : withoutBaseMark 10 ds = ds := by
  unfold withoutBaseMark
  split
  · simp
  · rfl

/-- **Digits are read as the number that they denote.** -/
theorem readInteger_digits (hne : ds ≠ []) (h : ∀ c ∈ ds, isDecimal c = true)
    (hlength : ds.length ≤ digitLimit) : readInteger ds = .ok (numberOf ds) := by
  have hsign : splitSign ds = (false, ds) := splitSign_of_not_mem
    (fun hminus => (isDecimal_plain (h '-' hminus)).2.2.1 rfl)
    (fun hplus => (isDecimal_plain (h '+' hplus)).2.1 rfl)
  have hcount : (ds.filterMap decimalDigit?).length ≤ digitLimit :=
    Nat.le_trans (List.length_filterMap_le _ _) hlength
  rw [readInteger, readIntegerIn, trim_digits h, hsign]
  simp only [withoutBaseMark_ten, separatedDigits?_digits hne h]
  rw [if_neg (by simp; omega)]
  rfl

/-! ### Signs for digits

Of the signs for one digit only decimal digits make up a numeral. -/

/-- No sign for a digit is the sign of a number or an underscore. -/
theorem isDigitLike_plain {c : Char} (h : isDigitLike c = true) : c ≠ '+' ∧ c ≠ '-' ∧ c ≠ '_' := by
  refine ⟨?_, ?_, ?_⟩
  all_goals rintro rfl; revert h; decide

theorem isDecimal_of_ascii {c : Char} (hlow : 0x30 ≤ c.toNat) (hhigh : c.toNat ≤ 0x39) :
    isDecimal c = true := by
  have hzero : 0x30 ∈ decimalZeros := by decide
  rw [isDecimal, decimalDigit?, Option.isSome_map, List.find?_isSome]
  refine ⟨0x30, hzero, ?_⟩
  simp only [Bool.and_eq_true, decide_eq_true_eq]
  omega

/-- Of the ASCII characters that are digits in some base, the letters are worth ten and more. -/
theorem toNat_of_asciiDigit? {c : Char} {d : Nat} (h : asciiDigit? c = some d) (hd : d < 10) :
    0x30 ≤ c.toNat ∧ c.toNat ≤ 0x39 := by
  unfold asciiDigit? at h
  simp only [Bool.and_eq_true, decide_eq_true_eq] at h
  split at h
  · rename_i hrange
    exact hrange
  split at h
  · cases h
    omega
  split at h
  · cases h
    omega
  · cases h

/-- A digit in the base of ten is a decimal digit. -/
theorem isDecimal_of_digitIn? {c : Char} {d : Nat} (h : digitIn? 10 c = some d) :
    isDecimal c = true := by
  cases hc : decimalDigit? c with
  | some d' => rw [isDecimal, hc]; rfl
  | none =>
    simp only [digitIn?, hc, Option.orElse_none] at h
    split at h
    · rename_i d' hascii
      obtain ⟨hlow, hhigh⟩ := toNat_of_asciiDigit? hascii (Option.ite_none_right_eq_some.mp h).1
      exact isDecimal_of_ascii hlow hhigh
    · cases h

/-- Digits between which no underscore stands are all there is. -/
theorem separatedDigits?_eq_some {xs : List Nat} (hplain : '_' ∉ ds)
    (h : separatedDigits? 10 ds = some xs) :
    (∀ c ∈ ds, isDecimal c = true) ∧ xs.length = ds.length := by
  fun_induction separatedDigits? 10 ds generalizing xs with
  | case1 => cases h
  | case2 c =>
    obtain ⟨d, hd, rfl⟩ := Option.map_eq_some_iff.mp h
    simpa using isDecimal_of_digitIn? hd
  | case3 c cs => simp at hplain
  | case4 c cs _ _ ih =>
    obtain ⟨d, hd, h⟩ := Option.bind_eq_some_iff.mp h
    obtain ⟨ds, hds, h⟩ := Option.bind_eq_some_iff.mp h
    obtain ⟨hdigits, hlength⟩ := ih (fun hmem => hplain (List.mem_cons_of_mem c hmem)) hds
    cases h
    simpa [hlength] using ⟨isDecimal_of_digitIn? hd, hdigits⟩

/-- **Signs for digits are a numeral when they are decimal digits**, and not too many. -/
theorem readInteger_ok_iff {n : Int} (hne : ds ≠ []) (h : ∀ c ∈ ds, isDigitLike c = true)
    (htrim : trim ds = ds) : readInteger ds = .ok n ↔
      (∀ c ∈ ds, isDecimal c = true) ∧ ds.length ≤ digitLimit ∧ n = numberOf ds := by
  constructor
  · intro hread
    have hsign : splitSign ds = (false, ds) := splitSign_of_not_mem
      (fun hminus => (isDigitLike_plain (h '-' hminus)).2.1 rfl)
      (fun hplus => (isDigitLike_plain (h '+' hplus)).1 rfl)
    have hplain : '_' ∉ ds := fun hunder => (isDigitLike_plain (h '_' hunder)).2.2 rfl
    simp only [readInteger, readIntegerIn, htrim, hsign, withoutBaseMark_ten] at hread
    split at hread
    · cases hread
    · rename_i xs hxs
      obtain ⟨hdigits, hlength⟩ := separatedDigits?_eq_some hplain hxs
      split at hread
      · cases hread
      · rename_i hshort
        have hle : ds.length ≤ digitLimit := by
          rw [hlength] at hshort
          simpa using hshort
        refine ⟨hdigits, hle, ?_⟩
        rw [separatedDigits?_digits hne hdigits] at hxs
        cases hxs
        cases hread
        rfl
  · rintro ⟨hdigits, hlength, rfl⟩
    exact readInteger_digits hne hdigits hlength

end StepFlow
