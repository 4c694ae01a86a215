import StepFlow.Proofs.Value.Text
import StepFlow.Json.Read

/-!
# Strings of JSON

A string is written unit by unit. A unit is a character that stands for itself, an escape of one
letter, or `\u` and four digits, and in any case it has a number. Most numbers are those of
characters. The others are halves of surrogate pairs: two of them together make one character, and
one that is alone stands for itself.

The reader does not take a string apart first. When it has read the first half of a pair it looks
ahead for the second one, and goes on behind it. So it has to be shown that it looks ahead for a
whole unit, which the closing quote does not belong to.

## Main definitions

* `Json.UnitText`, `Json.Units` — a unit as it is written, and several
* `Json.joined` — the numbers of the characters that units make

## Main results

* `Json.stringBody_of_units` — units are read up to the closing quote
* `Json.stringIn_of_stringBody` — what is read is units up to the closing quote
-/

namespace StepFlow.Json

variable {fuel n : Nat} {cs body quad rest : List Char} {digits units points : List Nat}

/-! ### Units -/

/-- The number of the first half of a surrogate pair. -/
def IsHigh (n : Nat) : Prop := 0xd800 ≤ n ∧ n ≤ 0xdbff

/-- The number of the second half of a surrogate pair. -/
def IsLow (n : Nat) : Prop := 0xdc00 ≤ n ∧ n ≤ 0xdfff

instance : DecidablePred IsHigh := fun _ => inferInstanceAs (Decidable (_ ∧ _))

instance : DecidablePred IsLow := fun _ => inferInstanceAs (Decidable (_ ∧ _))

theorem isHigh_iff : (decide (0xd800 ≤ n) && decide (n ≤ 0xdbff)) = true ↔ IsHigh n := by
  simp [IsHigh]

theorem isLow_iff : (decide (0xdc00 ≤ n) && decide (n ≤ 0xdfff)) = true ↔ IsLow n := by
  simp [IsLow]

/-- Four hexadecimal digits. -/
def IsQuad (quad : List Char) (digits : List Nat) : Prop :=
  quad.length = 4 ∧ quad.map asciiDigit? = digits.map some

/-- **A unit as it is written**, with its number. -/
inductive UnitText : List Char → Nat → Prop
  | plain {c : Char} : c ≠ '"' → c ≠ '\\' → 0x20 ≤ c.toNat → UnitText [c] c.toNat
  | simple {e c : Char} : simpleEscape? e = some c → UnitText ['\\', e] c.toNat
  | unicode {quad : List Char} {digits : List Nat} : IsQuad quad digits →
      UnitText ('\\' :: 'u' :: quad) (digitsValue 16 digits)

/-- Units one after the other. -/
inductive Units : List Char → List Nat → Prop
  | nil : Units [] []
  | cons {unit cs : List Char} {n : Nat} {units : List Nat} : UnitText unit n → Units cs units →
      Units (unit ++ cs) (n :: units)

/-- The number of the character that two halves make. -/
def paired (high low : Nat) : Nat := 0x10000 + (high - 0xd800) * 0x400 + (low - 0xdc00)

/-- **The numbers of the characters that units make**, and of the halves that are alone. -/
def joined : List Nat → List Nat
  | high :: low :: units =>
    if IsHigh high ∧ IsLow low then paired high low :: joined units
    else high :: joined (low :: units)
  | units => units

theorem joined_pair {high low : Nat} (hhigh : IsHigh high) (hlow : IsLow low) (units : List Nat) :
    joined (high :: low :: units) = paired high low :: joined units := by
  rw [joined, if_pos ⟨hhigh, hlow⟩]

/-- A unit that is not followed by its other half. -/
theorem joined_cons (h : IsHigh n → ∀ low ∈ units.head?, ¬IsLow low) :
    joined (n :: units) = n :: joined units := by
  cases units with
  | nil => rfl
  | cons low units => rw [joined, if_neg fun hboth => h hboth.1 low rfl hboth.2]

/-- The number of a character is no half of a pair. -/
theorem not_half (c : Char) : ¬IsHigh c.toNat ∧ ¬IsLow c.toNat := by
  have hvalid : c.toNat < 0xd800 ∨ 0xdfff < c.toNat ∧ c.toNat < 0x110000 := c.valid
  unfold IsHigh IsLow
  omega

theorem joined_char (c : Char) (units : List Nat) :
    joined (c.toNat :: units) = c.toNat :: joined units :=
  joined_cons fun hhigh => absurd hhigh (not_half c).1

/-! ### Escapes with four digits -/

theorem hexQuad?_append (h : IsQuad quad digits) (rest : List Char) :
    hexQuad? (quad ++ rest) = some (digitsValue 16 digits, rest) := by
  obtain ⟨hlength, hdigits⟩ := h
  have hcount : digits.length = 4 := by
    rw [← List.length_map some, ← hdigits, List.length_map, hlength]
  match quad, digits, hlength, hcount, hdigits with
  | [a, b, c, d], [x, y, z, u], _, _, hdigits =>
    simp only [List.map_cons, List.map_nil, List.cons.injEq, and_true] at hdigits
    obtain ⟨ha, hb, hc, hd⟩ := hdigits
    simp [hexQuad?, ha, hb, hc, hd]

theorem exists_quad_of_hexQuad? (h : hexQuad? cs = some (n, rest)) :
    ∃ quad digits, IsQuad quad digits ∧ n = digitsValue 16 digits ∧ cs = quad ++ rest := by
  match cs, h with
  | a :: b :: c :: d :: cs, h =>
    simp only [hexQuad?, Option.bind_eq_bind, Option.bind_eq_some_iff] at h
    obtain ⟨x, hx, y, hy, z, hz, u, hu, h⟩ := h
    cases h
    exact ⟨[a, b, c, d], [x, y, z, u], ⟨rfl, by simp [hx, hy, hz, hu]⟩, rfl, rfl⟩

theorem lowSurrogate?_of_low (h : IsQuad quad digits) (hlow : IsLow (digitsValue 16 digits))
    (rest : List Char) :
    lowSurrogate? ('\\' :: 'u' :: (quad ++ rest)) = some (digitsValue 16 digits, rest) := by
  rw [lowSurrogate?, hexQuad?_append h]
  exact if_pos (isLow_iff.mpr hlow)

theorem lowSurrogate?_of_not_low (h : IsQuad quad digits) (hlow : ¬IsLow (digitsValue 16 digits))
    (rest : List Char) : lowSurrogate? ('\\' :: 'u' :: (quad ++ rest)) = none := by
  rw [lowSurrogate?, hexQuad?_append h]
  exact if_neg (mt isLow_iff.mp hlow)

theorem exists_low_of_lowSurrogate? {low : Nat} (h : lowSurrogate? cs = some (low, rest)) :
    IsLow low ∧ ∃ unit, UnitText unit low ∧ cs = unit ++ rest := by
  unfold lowSurrogate? at h
  split at h
  · rename_i tail
    obtain ⟨⟨n, after⟩, hquad, hfound⟩ := Option.bind_eq_some_iff.mp h
    obtain ⟨quad, digits, hdigits, rfl, rfl⟩ := exists_quad_of_hexQuad? hquad
    obtain ⟨hlow, hfound⟩ := Option.ite_none_right_eq_some.mp hfound
    cases hfound
    exact ⟨isLow_iff.mp hlow, '\\' :: 'u' :: quad, .unicode hdigits, rfl⟩
  · cases h

/-- **Looking ahead finds a whole unit**, or none that is the second half of a pair. -/
theorem lowSurrogate?_of_units (h : Units body units) (rest : List Char) :
    (∃ low units' body', units = low :: units' ∧ IsLow low ∧ Units body' units' ∧
        body'.length < body.length ∧
        lowSurrogate? (body ++ '"' :: rest) = some (low, body' ++ '"' :: rest)) ∨
      (∀ low ∈ units.head?, ¬IsLow low) ∧ lowSurrogate? (body ++ '"' :: rest) = none := by
  cases h with
  | nil => exact .inr ⟨nofun, rfl⟩
  | @cons unit cs n units hunit hrest =>
    rw [List.append_assoc]
    cases hunit with
    | @plain c hquote hslash hc =>
      refine .inr ⟨by rintro low ⟨⟩; exact (not_half c).2, ?_⟩
      unfold lowSurrogate?
      split
      · rename_i heq
        exact absurd (List.cons.inj heq).1 hslash
      · rfl
    | @simple e c he =>
      refine .inr ⟨by rintro low ⟨⟩; exact (not_half c).2, ?_⟩
      unfold lowSurrogate?
      split
      · rename_i heq
        rw [(List.cons.inj (List.cons.inj heq).2).1] at he
        cases he
      · rfl
    | @unicode quad digits hquad =>
      by_cases hlow : IsLow (digitsValue 16 digits)
      · exact .inl ⟨_, units, cs, rfl, hlow, hrest, by simp; omega,
          lowSurrogate?_of_low hquad hlow _⟩
      · exact .inr ⟨by rintro low ⟨⟩; exact hlow, lowSurrogate?_of_not_low hquad hlow _⟩

theorem unicodePoint_alone (h : IsHigh n → lowSurrogate? cs = none) : unicodePoint n cs = (n, cs) := by
  unfold unicodePoint
  by_cases hhigh : IsHigh n
  · rw [if_pos (isHigh_iff.mpr hhigh), h hhigh]
  · rw [if_neg (mt isHigh_iff.mp hhigh)]

theorem unicodePoint_pair {low : Nat} (hhigh : IsHigh n)
    (hlow : lowSurrogate? cs = some (low, rest)) : unicodePoint n cs = (paired n low, rest) := by
  unfold unicodePoint
  rw [if_pos (isHigh_iff.mpr hhigh), hlow]
  rfl

/-! ### Reading -/

/-- One more character in front of a string that is read. -/
def withPoint (n : Nat) : Except Fault (List Nat × List Char) → Except Fault (List Nat × List Char) :=
  Except.map fun r => (n :: r.1, r.2)

theorem stringBody_plain {c : Char} (hquote : c ≠ '"') (hslash : c ≠ '\\') (hc : 0x20 ≤ c.toNat) :
    stringBody (fuel + 1) (c :: rest) = withPoint c.toNat (stringBody fuel rest) := by
  rw [stringBody]
  · rw [if_neg (by simp [hslash]; omega)]
    cases stringBody fuel rest <;> rfl
  · exact hquote
  · rintro _ rfl
    exact absurd rfl hslash
  · rintro _ _ rfl
    exact absurd rfl hslash

theorem stringBody_simple {e c : Char} (hc : simpleEscape? e = some c) :
    stringBody (fuel + 1) ('\\' :: e :: rest) = withPoint c.toNat (stringBody fuel rest) := by
  rw [stringBody]
  · rw [hc]
    dsimp only
    cases stringBody fuel rest <;> rfl
  · rintro rfl
    cases hc

theorem stringBody_unicode {after : List Char} (hquad : IsQuad quad digits)
    (h : unicodePoint (digitsValue 16 digits) rest = (n, after)) :
    stringBody (fuel + 1) ('\\' :: 'u' :: (quad ++ rest)) = withPoint n (stringBody fuel after) := by
  rw [stringBody, hexQuad?_append hquad]
  dsimp only
  rw [h]
  dsimp only
  cases stringBody fuel after <;> rfl

/-- **Units are read up to the closing quote.** -/
theorem stringBody_of_units (h : Units body units) (hfuel : body.length < fuel)
    (rest : List Char) : stringBody fuel (body ++ '"' :: rest) = .ok (joined units, rest) := by
  induction fuel generalizing body units with
  | zero => exact absurd hfuel (Nat.not_lt_zero _)
  | succ fuel ih =>
    cases h with
    | nil => rfl
    | @cons unit cs n units hunit hrest =>
      rw [List.length_append] at hfuel
      rw [List.append_assoc]
      cases hunit with
      | @plain c hquote hslash hc =>
        rw [List.singleton_append, stringBody_plain hquote hslash hc,
          ih hrest (by rw [List.length_singleton] at hfuel; omega), joined_char]
        rfl
      | @simple e c he =>
        have hread := ih hrest (by simp only [List.length_cons, List.length_nil] at hfuel; omega)
        rw [List.cons_append, List.singleton_append, stringBody_simple he, hread, joined_char]
        rfl
      | @unicode quad digits hquad =>
        simp only [List.length_cons] at hfuel
        rw [List.cons_append, List.cons_append]
        by_cases hhigh : IsHigh (digitsValue 16 digits)
        · rcases lowSurrogate?_of_units hrest rest with
            ⟨low, units', body', rfl, hlow, hrest', hlength, hahead⟩ | ⟨hlow, hahead⟩
          · rw [stringBody_unicode hquad (unicodePoint_pair hhigh hahead), ih hrest' (by omega),
              joined_pair hhigh hlow]
            rfl
          · rw [stringBody_unicode hquad (unicodePoint_alone fun _ => hahead),
              ih hrest (by omega), joined_cons fun _ => hlow]
            rfl
        · rw [stringBody_unicode hquad (unicodePoint_alone fun h => absurd h hhigh),
            ih hrest (by omega), joined_cons fun h => absurd h hhigh]
          rfl

/-- A text goes on with the units of a string, a closing quote and something else. -/
def StringIn (cs : List Char) (points : List Nat) (rest : List Char) : Prop :=
  ∃ body units, Units body units ∧ cs = body ++ '"' :: rest ∧ points = joined units

theorem StringIn.cons {unit : List Char} {c : Char} (hunit : UnitText unit c.toNat)
    (h : StringIn cs points rest) : StringIn (unit ++ cs) (c.toNat :: points) rest := by
  obtain ⟨body, units, hunits, rfl, rfl⟩ := h
  exact ⟨_, _, .cons hunit hunits, (List.append_assoc _ _ _).symm, (joined_char c units).symm⟩

/-- An escape with four digits, and the other half of a pair if it follows. -/
theorem StringIn.unicode {after : List Char} (hquad : IsQuad quad digits)
    (hpoint : unicodePoint (digitsValue 16 digits) cs = (n, after)) (h : StringIn after points rest) :
    StringIn ('\\' :: 'u' :: (quad ++ cs)) (n :: points) rest := by
  obtain ⟨body, units, hunits, rfl, rfl⟩ := h
  by_cases hpair : IsHigh (digitsValue 16 digits) ∧ ∃ found, lowSurrogate? cs = some found
  · obtain ⟨hhigh, ⟨low, behind⟩, hfound⟩ := hpair
    rw [unicodePoint_pair hhigh hfound, Prod.mk.injEq] at hpoint
    obtain ⟨rfl, rfl⟩ := hpoint
    obtain ⟨hlow, unit, hunit, rfl⟩ := exists_low_of_lowSurrogate? hfound
    exact ⟨_, _, .cons (.unicode hquad) (.cons hunit hunits), by simp,
      (joined_pair hhigh hlow units).symm⟩
  · have halone (hhigh : IsHigh (digitsValue 16 digits)) : lowSurrogate? cs = none :=
      Option.eq_none_iff_forall_ne_some.mpr fun found h => hpair ⟨hhigh, found, h⟩
    rw [unicodePoint_alone halone, Prod.mk.injEq] at hpoint
    obtain ⟨rfl, rfl⟩ := hpoint
    refine ⟨_, _, .cons (.unicode hquad) hunits, by simp, (joined_cons fun hhigh => ?_).symm⟩
    rcases lowSurrogate?_of_units hunits rest with ⟨_, _, _, _, _, _, _, hahead⟩ | ⟨hnone, -⟩
    · cases hahead.symm.trans (halone hhigh)
    · exact hnone

theorem eq_notJson_of_stringBody {e : Fault} (h : stringBody fuel cs = .error e) : e = .notJson := by
  induction fuel generalizing cs with
  | zero =>
    cases h
    rfl
  | succ fuel ih =>
    have hbind {tail : List Char} {f : List Nat × List Char → Except Fault (List Nat × List Char)}
        (h : stringBody fuel tail >>= f = .error e) (hf : ∀ r, ∃ r', f r = .ok r') :
        e = .notJson := by
      cases hs : stringBody fuel tail with
      | ok r =>
        obtain ⟨r', hr'⟩ := hf r
        rw [hs] at h
        cases h.symm.trans hr'
      | error e' =>
        rw [hs] at h
        cases h
        exact ih hs
    unfold stringBody at h
    split at h
    · cases h
    · split at h
      · exact hbind h fun _ => ⟨_, rfl⟩
      · cases h
        rfl
    · split at h
      · exact hbind h fun _ => ⟨_, rfl⟩
      · cases h
        rfl
    · split at h
      · cases h
        rfl
      · exact hbind h fun _ => ⟨_, rfl⟩
    · cases h
      rfl

/-- **What is read is units up to the closing quote.** -/
theorem stringIn_of_stringBody (h : stringBody fuel cs = .ok (points, rest)) :
    StringIn cs points rest := by
  induction fuel generalizing cs points with
  | zero => cases h
  | succ fuel ih =>
    unfold stringBody at h
    split at h
    · cases h
      exact ⟨[], [], .nil, rfl, rfl⟩
    · split at h
      · rename_i n after hquad
        obtain ⟨quad, digits, hdigits, rfl, rfl⟩ := exists_quad_of_hexQuad? hquad
        obtain ⟨⟨others, _⟩, hothers, h⟩ := exists_of_bind_ok h
        cases h
        exact .unicode hdigits rfl (ih hothers)
      · cases h
    · split at h
      · rename_i c hc
        obtain ⟨⟨others, _⟩, hothers, h⟩ := exists_of_bind_ok h
        cases h
        exact .cons (.simple hc) (ih hothers)
      · cases h
    · rename_i c tail hquote _ _
      split at h
      · cases h
      · rename_i hplain
        simp only [Bool.or_eq_true, decide_eq_true_eq, not_or, Nat.not_lt] at hplain
        obtain ⟨⟨others, _⟩, hothers, h⟩ := exists_of_bind_ok h
        cases h
        exact .cons (.plain hquote hplain.2 hplain.1) (ih hothers)
    · cases h

end StepFlow.Json
