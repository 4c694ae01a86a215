import StepFlow.Proofs.Number.Digits
import StepFlow.Proofs.Text.Pieces

/-!
# Decimal numerals

A decimal numeral has a whole part, and it may have a sign, a fraction and an exponent. Here it is
taken apart: a `Numeral` holds the parts, each of which is well formed by itself, and so it denotes
a number without more ado. A numeral without fraction and exponent denotes an integer, if it is not
too long; and any numeral denotes a double.

## Main definitions

* `Numeral`, `Numeral.chars` — a numeral in its parts, and as it is written
* `Numeral.integer`, `Numeral.double` — what it denotes

## Main results

* `Numeral.readInteger_eq` — a numeral is read as an integer unless it is too long
* `Numeral.readDouble_chars` — a numeral is read as a double
-/

namespace StepFlow

open Text (decimalDigit? isDecimal isBlank)

/-! ### Parts of a numeral -/

/-- ASCII digits, at least one. -/
structure Digits where
  chars : List Char
  ne_nil : chars ≠ []
  isDigit : ∀ c ∈ chars, c.isDigit = true

/-- The sign of an exponent. -/
inductive Sign where
  | none
  | plus
  | minus
  deriving DecidableEq, Repr

def Sign.chars : Sign → List Char
  | none => []
  | plus => ['+']
  | minus => ['-']

structure Exponent where
  /-- The mark of the exponent is a capital letter. -/
  capital : Bool
  sign : Sign
  digits : Digits

namespace Exponent

def chars (e : Exponent) : List Char :=
  (if e.capital then 'E' else 'e') :: (e.sign.chars ++ e.digits.chars)

/-- The power of ten. -/
def power (e : Exponent) : Int :=
  if e.sign = .minus then -numberOf e.digits.chars else numberOf e.digits.chars

end Exponent

/-- **A decimal numeral.** -/
structure Numeral where
  negative : Bool
  whole : Digits
  fraction : Option Digits
  exponent : Option Exponent

namespace Numeral

/-- The sign as it is written. -/
def sign (n : Numeral) : List Char := if n.negative then ['-'] else []

/-- The fraction as it is written. -/
def pointed (n : Numeral) : List Char := n.fraction.elim [] fun ds => '.' :: ds.chars

/-- The exponent as it is written. -/
def marked (n : Numeral) : List Char := n.exponent.elim [] Exponent.chars

def chars (n : Numeral) : List Char := n.sign ++ (n.whole.chars ++ (n.pointed ++ n.marked))

/-- The digits behind the point. -/
def decimals (n : Numeral) : List Char := n.fraction.elim [] Digits.chars

/-- The integer that a numeral denotes without its fraction and its exponent. -/
def integer (n : Numeral) : Int :=
  if n.negative then -numberOf n.whole.chars else numberOf n.whole.chars

/-- The double that a numeral denotes. -/
def double (n : Numeral) : Double :=
  .ofDecimal n.negative (numberOf (n.whole.chars ++ n.decimals))
    (n.exponent.elim 0 Exponent.power - n.decimals.length)

end Numeral

/-! ### Digits -/

theorem isDecimal_of_isDigit {c : Char} (h : c.isDigit = true) : isDecimal c = true := by
  simp only [Char.isDigit, Bool.and_eq_true, decide_eq_true_eq] at h
  exact isDecimal_of_ascii h.1 h.2

/-- Digits have no small letters. -/
theorem toLower_of_isDigit {c : Char} (h : c.isDigit = true) : c.toLower = c := by
  obtain ⟨-, hdigit⟩ := (Bool.and_eq_true _ _).mp h
  refine dif_neg fun hupper => ?_
  have hle : 'A'.val ≤ '9'.val := Nat.le_trans hupper.1 (of_decide_eq_true hdigit)
  exact absurd hle (by decide)

namespace Digits

variable (ds : Digits)

theorem isDecimal : ∀ c ∈ ds.chars, isDecimal c = true :=
  fun c hc => isDecimal_of_isDigit (ds.isDigit c hc)

theorem exists_cons : ∃ c cs, ds.chars = c :: cs ∧ c.isDigit = true := by
  obtain ⟨c, cs, h⟩ := List.exists_cons_of_ne_nil ds.ne_nil
  exact ⟨c, cs, h, ds.isDigit c (h ▸ List.mem_cons_self)⟩

theorem separatedDigits? : separatedDigits? 10 ds.chars = some (ds.chars.filterMap decimalDigit?) :=
  separatedDigits?_digits ds.ne_nil ds.isDecimal

theorem optionalDigits? : optionalDigits? ds.chars = some (ds.chars.filterMap decimalDigit?) := by
  rw [StepFlow.optionalDigits?, if_neg (by simpa using ds.ne_nil), ds.separatedDigits?]

/-- Digits have no sign. -/
theorem splitSign_append (rest : List Char) :
    splitSign (ds.chars ++ rest) = (false, ds.chars ++ rest) := by
  obtain ⟨c, cs, hcs, hc⟩ := ds.exists_cons
  rw [hcs]
  unfold splitSign
  split
  · rename_i heq
    rw [(List.cons.inj heq).1] at hc
    cases hc
  · rename_i heq
    rw [(List.cons.inj heq).1] at hc
    cases hc
  · rfl

theorem length_filterMap : (ds.chars.filterMap decimalDigit?).length = ds.chars.length :=
  (separatedDigits?_eq_some (fun h => (isDecimal_plain (ds.isDecimal '_' h)).2.2.2 rfl)
    ds.separatedDigits?).2

end Digits

theorem Exponent.splitSign_eq (e : Exponent) : splitSign (e.sign.chars ++ e.digits.chars) =
    (decide (e.sign = .minus), e.digits.chars) := by
  have hdigits := e.digits.splitSign_append []
  rw [List.append_nil] at hdigits
  cases e.sign with
  | none => exact hdigits
  | plus => rfl
  | minus => rfl

/-! ### Integers -/

namespace Numeral

variable (n : Numeral)

/-- What a numeral is written with. -/
theorem mem_chars {c : Char} (h : c ∈ n.chars) :
    c.isDigit = true ∨ c ∈ ['-', '+', '.', 'e', 'E'] := by
  have hdigits (ds : Digits) (hc : c ∈ ds.chars) := ds.isDigit c hc
  obtain ⟨negative, whole, fraction, exponent⟩ := n
  simp only [chars, sign, pointed, marked, List.mem_append] at h
  rcases h with h | h | h | h
  · split at h
    · exact .inr (by simp_all)
    · cases h
  · exact .inl (hdigits _ h)
  · cases fraction with
    | none => cases h
    | some ds =>
      rcases List.mem_cons.mp h with rfl | h
      · exact .inr (by decide)
      · exact .inl (hdigits _ h)
  · cases exponent with
    | none => cases h
    | some e =>
      obtain ⟨capital, sign, ds⟩ := e
      simp only [Option.elim, Exponent.chars, List.mem_cons, List.mem_append] at h
      rcases h with rfl | h | h
      · cases capital <;> exact .inr (by simp)
      · cases sign <;> simp_all [Sign.chars]
      · exact .inl (hdigits _ h)

theorem trim_chars : Text.trim n.chars = n.chars := by
  refine Text.trim_of_not_blank fun c hc => ?_
  rcases n.mem_chars hc with hdigit | hmark
  · exact (isDecimal_plain (isDecimal_of_isDigit hdigit)).1
  · simp only [List.mem_cons, List.not_mem_nil, or_false] at hmark
    rcases hmark with rfl | rfl | rfl | rfl | rfl <;> decide

theorem splitSign_sign (rest : List Char) :
    splitSign (n.sign ++ (n.whole.chars ++ rest)) = (n.negative, n.whole.chars ++ rest) := by
  unfold sign
  cases n.negative with
  | true => rfl
  | false => exact n.whole.splitSign_append rest

/-- **A numeral is read as an integer** unless it is too long. -/
theorem readInteger_eq : readInteger (n.sign ++ n.whole.chars) =
    if digitLimit < n.whole.chars.length then .error (.tooLongToRead n.whole.chars.length)
    else .ok n.integer := by
  have htrim : Text.trim (n.sign ++ n.whole.chars) = n.sign ++ n.whole.chars := by
    have h := trim_chars { n with fraction := none, exponent := none }
    simpa [chars, pointed, marked, sign] using h
  have hsign := n.splitSign_sign []
  rw [List.append_nil] at hsign
  rw [readInteger, readIntegerIn, htrim, hsign]
  simp only [withoutBaseMark_ten, n.whole.separatedDigits?, n.whole.length_filterMap]
  by_cases hlong : digitLimit < n.whole.chars.length
  · rw [if_pos (by simpa using hlong), if_pos hlong]
    rfl
  · rw [if_neg (by simpa using hlong), if_neg hlong]
    rfl

end Numeral

/-! ### Decimals -/

section

variable {p : Char → Bool} {cs rest : List Char} {c : Char}

theorem splitFirst_append (hcs : ∀ x ∈ cs, p x = false) (hc : p c = true) :
    splitFirst p (cs ++ c :: rest) = (cs, some rest) := by
  have hstart : ∀ x ∈ cs, (!p x) = true := fun x hx => by rw [hcs x hx]; rfl
  have hstop : (!p c) = false := by rw [hc]; rfl
  obtain ⟨htake, hdrop⟩ : (cs ++ c :: rest).takeWhile (!p ·) = cs ∧
      (cs ++ c :: rest).dropWhile (!p ·) = c :: rest :=
    Text.takeWhile_dropWhile_append hstart hstop
  rw [splitFirst, List.span_eq_takeWhile_dropWhile, htake, hdrop]

theorem splitFirst_of_not (hcs : ∀ x ∈ cs, p x = false) : splitFirst p cs = (cs, none) := by
  have htake : cs.takeWhile (fun x => !p x) = cs :=
    List.takeWhile_eq_self_iff.mpr fun x hx => by rw [hcs x hx]; rfl
  have hdrop : cs.dropWhile (fun x => !p x) = [] :=
    List.dropWhile_eq_nil_iff.mpr fun x hx => by rw [hcs x hx]; rfl
  rw [splitFirst, List.span_eq_takeWhile_dropWhile, htake, hdrop]

end

namespace Numeral

variable (n : Numeral)

/-- A numeral does not begin with a letter. -/
theorem asciiLowered_ne (rest word : List Char) {c : Char} (hc : c.isDigit = false) :
    asciiLowered (n.whole.chars ++ rest) ≠ c :: word := by
  obtain ⟨d, cs, hcs, hd⟩ := n.whole.exists_cons
  rw [hcs]
  intro h
  have hlower : d.toLower = c := (List.cons.inj h).1
  rw [← hlower, toLower_of_isDigit hd, hd] at hc
  cases hc

theorem splitFirst_mark : splitFirst (fun c => c = 'e' || c = 'E')
    (n.whole.chars ++ (n.pointed ++ n.marked)) =
      (n.whole.chars ++ n.pointed, n.exponent.map fun e => e.sign.chars ++ e.digits.chars) := by
  obtain ⟨negative, whole, fraction, exponent⟩ := n
  have hdigit {c : Char} (hc : c.isDigit = true) : (decide (c = 'e') || decide (c = 'E')) = false := by
    refine Bool.eq_false_iff.mpr fun h => ?_
    simp only [Bool.or_eq_true, decide_eq_true_eq] at h
    rcases h with rfl | rfl <;> cases hc
  have hmantissa : ∀ c ∈ whole.chars ++ fraction.elim [] (fun ds => '.' :: ds.chars),
      (decide (c = 'e') || decide (c = 'E')) = false := by
    intro c hc
    rcases List.mem_append.mp hc with hc | hc
    · exact hdigit (whole.isDigit c hc)
    · cases fraction with
      | none => cases hc
      | some ds =>
        rcases List.mem_cons.mp hc with rfl | hc
        · rfl
        · exact hdigit (ds.isDigit c hc)
  rw [← List.append_assoc]
  cases exponent with
  | none =>
    simp only [pointed, marked, Option.elim, Option.map, List.append_nil]
    exact splitFirst_of_not hmantissa
  | some e => exact splitFirst_append hmantissa (by cases e.capital <;> rfl)

theorem splitFirst_point : splitFirst (· = '.') (n.whole.chars ++ n.pointed) =
    (n.whole.chars, n.fraction.map Digits.chars) := by
  obtain ⟨negative, whole, fraction, exponent⟩ := n
  have hwhole : ∀ c ∈ whole.chars, decide (c = '.') = false := by
    refine fun c hc => decide_eq_false ?_
    rintro rfl
    cases whole.isDigit _ hc
  cases fraction with
  | none =>
    simp only [pointed, Option.elim, Option.map, List.append_nil]
    exact splitFirst_of_not hwhole
  | some ds => exact splitFirst_append hwhole rfl

theorem optionalDigits?_decimals : optionalDigits? n.decimals =
    some (n.decimals.filterMap decimalDigit?) ∧
      (n.decimals.filterMap decimalDigit?).length = n.decimals.length := by
  unfold decimals
  cases n.fraction with
  | none => exact ⟨rfl, rfl⟩
  | some ds => exact ⟨ds.optionalDigits?, ds.length_filterMap⟩

theorem readMagnitude?_eq :
    readMagnitude? n.negative (n.whole.chars ++ (n.pointed ++ n.marked)) = some n.double := by
  have hword {c : Char} (word : List Char) (hc : c.isDigit = false) :=
    n.asciiLowered_ne (n.pointed ++ n.marked) word hc
  have hfraction : (n.fraction.map Digits.chars).getD [] = n.decimals := by
    unfold decimals
    cases n.fraction <;> rfl
  obtain ⟨hdecimals, hlength⟩ := n.optionalDigits?_decimals
  rw [readMagnitude?, if_neg, if_neg]
  · rw [n.splitFirst_mark]
    dsimp only
    rw [n.splitFirst_point]
    dsimp only
    rw [n.whole.optionalDigits?, hfraction, hdecimals]
    simp only [Option.bind_eq_bind, Option.bind_some, hlength]
    rw [if_neg, double, numberOf, List.filterMap_append]
    · cases n.exponent with
      | none => rfl
      | some e =>
        simp only [Option.map, e.splitSign_eq, e.digits.separatedDigits?, Option.bind_some]
        simp only [decide_eq_true_eq]
        rfl
    · have hne : n.whole.chars.filterMap decimalDigit? ≠ [] := fun h => by
        have hlength := n.whole.length_filterMap
        rw [h] at hlength
        exact n.whole.ne_nil (List.length_eq_zero_iff.mp hlength.symm)
      simp [hne]
  · exact hword _ rfl
  · simp only [Bool.or_eq_true, decide_eq_true_eq, not_or]
    exact ⟨hword _ rfl, hword _ rfl⟩

/-- **A numeral is read as a double.** -/
theorem readDouble_chars : readDouble n.chars = .ok n.double := by
  have hsign : splitSign n.chars = (n.negative, n.whole.chars ++ (n.pointed ++ n.marked)) :=
    n.splitSign_sign _
  rw [readDouble, n.trim_chars, hsign]
  dsimp only
  rw [n.readMagnitude?_eq]
  rfl

end Numeral

end StepFlow
