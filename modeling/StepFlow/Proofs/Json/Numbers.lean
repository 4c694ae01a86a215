import StepFlow.Json.Read
import StepFlow.Proofs.Number.Decimals

/-!
# Numbers of JSON

A number is a decimal numeral that does not begin with a zero unless this is its whole part. Without
fraction and exponent it is an integer, which must not be too long. Otherwise it is a double.

The reader takes the parts of a numeral from the text one after the other, each as far as it goes. So
a numeral is read as a whole where the text does not go on like one.

## Main definitions

* `Json.NumberText` — a numeral as a text of JSON
* `Json.Stops` — a text does not go on like a number

## Main results

* `Json.number_of_text` — a number is read where it ends
* `Json.exists_text_of_number` — what is read is a number
-/

namespace StepFlow.Json

variable {cs rest digits text : List Char} {v : Value}

/-- **A numeral as a text of JSON**, with its value. -/
inductive NumberText : List Char → Value → Prop
  | int (n : Numeral) : (n.whole.chars.head? = some '0' → n.whole.chars = ['0']) →
      n.fraction = none → n.exponent = none → n.whole.chars.length ≤ digitLimit →
      NumberText n.chars (.int n.integer)
  | double (n : Numeral) : (n.whole.chars.head? = some '0' → n.whole.chars = ['0']) →
      ¬(n.fraction = none ∧ n.exponent = none) → NumberText n.chars (.double n.double)

/-- A text does not go on with a digit. -/
def NoDigit (rest : List Char) : Prop := ∀ c ∈ rest.head?, c.isDigit = false

/-- A text does not go on like a number. -/
def Stops (rest : List Char) : Prop :=
  ∀ c ∈ rest.head?, c.isDigit = false ∧ c ≠ '.' ∧ c ≠ 'e' ∧ c ≠ 'E'

theorem Stops.head {c : Char} (h : Stops (c :: rest)) :
    c.isDigit = false ∧ c ≠ '.' ∧ c ≠ 'e' ∧ c ≠ 'E' :=
  h c rfl

theorem Stops.noDigit (h : Stops rest) : NoDigit rest := fun c hc => (h c hc).1

/-! ### Digits -/

theorem spanDigits_append (ds : Digits) (hrest : NoDigit rest) :
    spanDigits (ds.chars ++ rest) = (ds.chars, rest) := by
  rw [spanDigits, List.span_eq_takeWhile_dropWhile, List.takeWhile_append_of_pos ds.isDigit,
    List.dropWhile_append_of_pos ds.isDigit]
  cases rest with
  | nil => simp
  | cons c rest => simp [hrest c rfl]

/-- A text goes on with digits, or there are none to be taken from it. -/
theorem spanDigits_cases (cs : List Char) : spanDigits cs = ([], cs) ∨
    ∃ (ds : Digits) (rest : List Char), spanDigits cs = (ds.chars, rest) ∧ cs = ds.chars ++ rest := by
  rw [spanDigits, List.span_eq_takeWhile_dropWhile]
  by_cases hne : cs.takeWhile Char.isDigit = []
  · rw [hne]
    have hsplit := List.takeWhile_append_dropWhile (p := Char.isDigit) (l := cs)
    rw [hne, List.nil_append] at hsplit
    exact .inl (by rw [hsplit])
  · exact .inr ⟨⟨_, hne, fun c hc => List.mem_takeWhile_imp hc⟩, _, rfl,
      List.takeWhile_append_dropWhile.symm⟩

/-! ### The whole part -/

theorem takeMinus_sign (n : Numeral) (rest : List Char) :
    takeMinus (n.sign ++ (n.whole.chars ++ rest)) = (n.sign, n.whole.chars ++ rest) := by
  obtain ⟨c, tail, hcs, hc⟩ := n.whole.exists_cons
  rw [Numeral.sign, hcs]
  cases n.negative with
  | true => rfl
  | false =>
    unfold takeMinus
    split
    · rename_i heq
      rw [(List.cons.inj heq).1] at hc
      cases hc
    · rfl

/-- A sign and digits, the first of which is not zero unless it is alone. -/
theorem integerPart?_whole (n : Numeral)
    (hzero : n.whole.chars.head? = some '0' → n.whole.chars = ['0']) (hrest : NoDigit rest) :
    integerPart? (n.sign ++ (n.whole.chars ++ rest)) = some (n.sign ++ n.whole.chars, rest) := by
  rw [integerPart?, takeMinus_sign]
  dsimp only
  split
  · rename_i heq
    obtain ⟨c, tail, hcs, -⟩ := n.whole.exists_cons
    rw [hcs] at heq hzero ⊢
    obtain ⟨rfl, rfl⟩ := List.cons.inj heq
    rw [(List.cons.inj (hzero rfl)).2]
    rfl
  · rw [spanDigits_append n.whole hrest]
    split
    · rename_i heq
      exact absurd (Prod.mk.inj heq).1 n.whole.ne_nil
    · rename_i heq
      cases heq
      rfl

theorem takeMinus_cases (cs : List Char) : ∃ (negative : Bool) (body : List Char),
    takeMinus cs = (if negative then ['-'] else [], body) ∧
      cs = (if negative then ['-'] else []) ++ body := by
  unfold takeMinus
  split
  · exact ⟨true, _, rfl, rfl⟩
  · exact ⟨false, cs, rfl, rfl⟩

theorem exists_whole_of_integerPart? (h : integerPart? cs = some (text, rest)) :
    ∃ n : Numeral, (n.whole.chars.head? = some '0' → n.whole.chars = ['0']) ∧
      text = n.sign ++ n.whole.chars ∧ cs = text ++ rest := by
  obtain ⟨negative, body, hsign, hcs⟩ := takeMinus_cases cs
  unfold integerPart? at h
  rw [hsign] at h
  dsimp only at h
  split at h
  · cases h
    exact ⟨⟨negative, ⟨['0'], by simp, by simp⟩, none, none⟩, fun _ => rfl, rfl, by simp [hcs]⟩
  · rename_i hzero
    rcases spanDigits_cases body with hspan | ⟨ds, behind, hspan, rfl⟩
    · rw [hspan] at h
      cases h
    · rw [hspan] at h
      split at h
      · cases h
      · rename_i heq
        cases heq
        cases h
        refine ⟨⟨negative, ds, none, none⟩, fun hhead => ?_, rfl, by simp [hcs]⟩
        obtain ⟨tail, htail⟩ := List.head?_eq_some_iff.mp hhead
        exact (hzero (tail ++ rest) (by rw [htail]; rfl)).elim

/-! ### Fraction and exponent -/

theorem fractionPart_pointed (n : Numeral) (hrest : NoDigit rest) (hpoint : rest.head? ≠ some '.') :
    fractionPart (n.pointed ++ rest) = (n.pointed, rest) := by
  rw [Numeral.pointed]
  cases n.fraction with
  | none =>
    simp only [Option.elim, List.nil_append]
    unfold fractionPart
    split
    · exact absurd rfl hpoint
    · rfl
  | some ds =>
    obtain ⟨c, tail, hcs, -⟩ := ds.exists_cons
    have hspan := spanDigits_append ds hrest
    rw [hcs] at hspan
    simp only [Option.elim, List.cons_append, fractionPart, hcs]
    rw [List.cons_append] at hspan
    rw [hspan]

theorem fractionPart_cases (cs : List Char) : ∃ (fraction : Option Digits) (rest : List Char),
    fractionPart cs = (fraction.elim [] fun ds => '.' :: ds.chars, rest) ∧
      cs = (fraction.elim [] fun ds => '.' :: ds.chars) ++ rest := by
  unfold fractionPart
  split
  · rename_i tail
    rcases spanDigits_cases tail with hspan | ⟨ds, rest, hspan, rfl⟩
    · rw [hspan]
      exact ⟨none, _, rfl, rfl⟩
    · rw [hspan]
      split
      · rename_i heq
        exact absurd (Prod.mk.inj heq).1 ds.ne_nil
      · rename_i heq
        cases heq
        exact ⟨some ds, rest, rfl, rfl⟩
  · exact ⟨none, cs, rfl, rfl⟩

/-- An exponent as it is passed on, with a small letter. -/
def small (e : Exponent) : Exponent := { e with capital := false }

theorem takeSign_append (sign : Sign) (ds : Digits) (rest : List Char) :
    takeSign (sign.chars ++ (ds.chars ++ rest)) = (sign.chars, ds.chars ++ rest) := by
  obtain ⟨c, tail, hcs, hc⟩ := ds.exists_cons
  rw [hcs]
  cases sign with
  | none =>
    simp only [Sign.chars, List.nil_append]
    unfold takeSign
    split
    · rename_i heq
      rw [(List.cons.inj heq).1] at hc
      cases hc
    · rename_i heq
      rw [(List.cons.inj heq).1] at hc
      cases hc
    · rfl
  | plus => rfl
  | minus => rfl

theorem exponentPart_marked (n : Numeral) (hrest : Stops rest) :
    exponentPart (n.marked ++ rest) = ((n.exponent.map small).elim [] Exponent.chars, rest) := by
  rw [Numeral.marked]
  cases n.exponent with
  | none =>
    simp only [Option.elim, Option.map, List.nil_append]
    unfold exponentPart
    split
    · rw [if_neg (by simp [hrest.head])]
    · rfl
  | some e =>
    obtain ⟨capital, sign, ds⟩ := e
    have hmark : (decide ((if capital then 'E' else 'e') = 'e') ||
        decide ((if capital then 'E' else 'e') = 'E')) = true := by
      cases capital <;> rfl
    simp only [Option.elim, Option.map, Exponent.chars, List.cons_append, List.append_assoc,
      exponentPart, hmark, if_true, takeSign_append, spanDigits_append ds hrest.noDigit]
    split
    · rename_i heq
      exact absurd (Prod.mk.inj heq).1 ds.ne_nil
    · rename_i heq
      cases heq
      rfl

theorem takeSign_cases (cs : List Char) : ∃ (sign : Sign) (body : List Char),
    takeSign cs = (sign.chars, body) ∧ cs = sign.chars ++ body := by
  unfold takeSign
  split
  · exact ⟨.plus, _, rfl, rfl⟩
  · exact ⟨.minus, _, rfl, rfl⟩
  · exact ⟨.none, cs, rfl, rfl⟩

theorem exponentPart_cases (cs : List Char) : ∃ (exponent : Option Exponent) (rest : List Char),
    exponentPart cs = ((exponent.map small).elim [] Exponent.chars, rest) ∧
      cs = exponent.elim [] Exponent.chars ++ rest := by
  unfold exponentPart
  split
  · rename_i mark tail
    split
    · rename_i hmark
      obtain ⟨sign, body, hsign, rfl⟩ := takeSign_cases tail
      rw [hsign]
      dsimp only
      rcases spanDigits_cases body with hspan | ⟨ds, rest, hspan, rfl⟩
      · rw [hspan]
        exact ⟨none, _, rfl, rfl⟩
      · rw [hspan]
        split
        · rename_i heq
          exact absurd (Prod.mk.inj heq).1 ds.ne_nil
        · rename_i heq
          cases heq
          simp only [Bool.or_eq_true, decide_eq_true_eq] at hmark
          rcases hmark with rfl | rfl
          · exact ⟨some ⟨false, sign, ds⟩, rest, rfl, by simp [Exponent.chars]⟩
          · exact ⟨some ⟨true, sign, ds⟩, rest, rfl, by simp [Exponent.chars]⟩
    · exact ⟨none, _, rfl, rfl⟩
  · exact ⟨none, [], rfl, rfl⟩

/-! ### Numbers -/

/-- The letter of the exponent does not matter. -/
theorem double_small (n : Numeral) :
    Numeral.double { n with exponent := n.exponent.map small } = n.double := by
  unfold Numeral.double
  cases n.exponent <;> rfl

/-- Behind the other parts of a numeral there is no further digit. -/
theorem marked_append (n : Numeral) (hrest : Stops rest) :
    NoDigit (n.marked ++ rest) ∧ (n.marked ++ rest).head? ≠ some '.' := by
  rw [Numeral.marked]
  cases n.exponent with
  | none => exact ⟨hrest.noDigit, fun h => (hrest '.' h).2.1 rfl⟩
  | some e =>
    obtain ⟨capital, sign, ds⟩ := e
    cases capital <;> simp [Exponent.chars, NoDigit]

theorem pointed_append (n : Numeral) (hrest : NoDigit rest) : NoDigit (n.pointed ++ rest) := by
  rw [Numeral.pointed]
  cases n.fraction with
  | none => exact hrest
  | some ds => simp [NoDigit]

/-- What is read comes from the parts of a numeral, and from nothing else. -/
theorem number_of_parts (n : Numeral) {rest₁ rest₂ : List Char}
    (hwhole : integerPart? cs = some (n.sign ++ n.whole.chars, rest₁))
    (hfraction : fractionPart rest₁ = (n.pointed, rest₂))
    (hexponent : exponentPart rest₂ = ((n.exponent.map small).elim [] Exponent.chars, rest)) :
    number cs =
      if n.fraction = none ∧ n.exponent = none then
        match readInteger (n.sign ++ n.whole.chars) with
        | .ok k => .ok (.int k, rest)
        | .error e => .error (.number e)
      else .ok (.double n.double, rest) := by
  have hempty : (n.pointed.isEmpty && ((n.exponent.map small).elim [] Exponent.chars).isEmpty) = true ↔
      n.fraction = none ∧ n.exponent = none := by
    rw [Numeral.pointed]
    cases n.fraction <;> cases n.exponent <;> simp [Exponent.chars]
  have hdouble : readDouble (n.sign ++ n.whole.chars ++ n.pointed ++
      (n.exponent.map small).elim [] Exponent.chars) = .ok n.double := by
    rw [← double_small, ← Numeral.readDouble_chars]
    simp only [Numeral.chars, List.append_assoc]
    rfl
  rw [number, hwhole]
  dsimp only
  rw [hfraction]
  dsimp only
  rw [hexponent]
  dsimp only
  by_cases hinteger : n.fraction = none ∧ n.exponent = none
  · rw [if_pos (hempty.mpr hinteger), if_pos hinteger]
    rfl
  · rw [if_neg (mt hempty.mp hinteger), if_neg hinteger, hdouble]
    rfl

/-- **A number is read where it ends.** -/
theorem number_of_text (h : NumberText cs v) (hrest : Stops rest) :
    number (cs ++ rest) = .ok (v, rest) := by
  have hparts (n : Numeral) (hzero : n.whole.chars.head? = some '0' → n.whole.chars = ['0']) :
      number (n.chars ++ rest) =
        if n.fraction = none ∧ n.exponent = none then
          match readInteger (n.sign ++ n.whole.chars) with
          | .ok k => .ok (.int k, rest)
          | .error e => .error (.number e)
        else .ok (.double n.double, rest) := by
    obtain ⟨hnoDigit, hpoint⟩ := marked_append n hrest
    have hwhole := integerPart?_whole n hzero (pointed_append n hnoDigit)
    refine number_of_parts n ?_ (fractionPart_pointed n hnoDigit hpoint) (exponentPart_marked n hrest)
    rw [← hwhole, Numeral.chars]
    simp only [List.append_assoc]
  cases h with
  | int n hzero hfraction hexponent hlength =>
    rw [hparts n hzero, if_pos ⟨hfraction, hexponent⟩, n.readInteger_eq,
      if_neg (Nat.not_lt_of_le hlength)]
  | double n hzero hdouble => rw [hparts n hzero, if_neg hdouble]

/-- **What is read is a number.** -/
theorem exists_text_of_number (h : number cs = .ok (v, rest)) :
    ∃ text, NumberText text v ∧ cs = text ++ rest := by
  cases hwhole : integerPart? cs with
  | none =>
    rw [number, hwhole] at h
    cases h
  | some found =>
    obtain ⟨whole, rest₁⟩ := found
    obtain ⟨⟨negative, whole, _, _⟩, hzero, rfl, rfl⟩ := exists_whole_of_integerPart? hwhole
    obtain ⟨fraction, rest₂, hfraction, rfl⟩ := fractionPart_cases rest₁
    obtain ⟨exponent, rest₃, hexponent, rfl⟩ := exponentPart_cases rest₂
    have hnumber := number_of_parts ⟨negative, whole, fraction, exponent⟩ hwhole hfraction hexponent
    have hchars : (Numeral.mk negative whole none none).sign ++ whole.chars ++
        ((fraction.elim [] fun ds => '.' :: ds.chars) ++ (exponent.elim [] Exponent.chars ++ rest₃)) =
          Numeral.chars ⟨negative, whole, fraction, exponent⟩ ++ rest₃ := by
      simp only [Numeral.chars, List.append_assoc]
      rfl
    rw [hnumber] at h
    by_cases hinteger : fraction = none ∧ exponent = none
    · rw [if_pos hinteger, Numeral.readInteger_eq] at h
      by_cases hlong : digitLimit < whole.chars.length
      · rw [if_pos hlong] at h
        cases h
      · rw [if_neg hlong] at h
        cases h
        exact ⟨_, .int ⟨negative, whole, fraction, exponent⟩ hzero hinteger.1 hinteger.2
          (Nat.le_of_not_lt hlong), hchars⟩
    · rw [if_neg hinteger] at h
      cases h
      exact ⟨_, .double ⟨negative, whole, fraction, exponent⟩ hzero hinteger, hchars⟩

end StepFlow.Json
