import StepFlow.Proofs.Number.Numeral
import StepFlow.Proofs.Value.Text
import StepFlow.Text.Quoted
import Mathlib.Algebra.Order.Ring.Int

/-!
# Numbers written out in digits

The digits of a number, in any base up to sixteen, are worth the number, and zeros in front of them
do not matter. So an integer that has been read can be written again, and a number of at most
sixteen bits is that of four hexadecimal digits.

## Main results

* `exists_digitsValue_toDigits` — digits are worth the number they were made of
* `head?_decimalDigits` — only zero begins with the digit zero
* `natAbs_lt_of_readInteger` — what has been read can be written
-/

namespace StepFlow

open Text (decimalDigit? hexDigits)

/-! ### The value of digits -/

theorem digitsValue_append_singleton (base : Nat) (ds : List Nat) (d : Nat) :
    digitsValue base (ds ++ [d]) = digitsValue base ds * base + d :=
  List.foldl_append

theorem digitsValue_replicate_zero (base k : Nat) (ds : List Nat) :
    digitsValue base (List.replicate k 0 ++ ds) = digitsValue base ds := by
  induction k with
  | zero => rfl
  | succ k ih =>
    rw [List.replicate_succ, List.cons_append, ← ih]
    simp [digitsValue]

theorem digitsValue_lt {base : Nat} {ds : List Nat} (h : ∀ d ∈ ds, d < base) :
    digitsValue base ds < base ^ ds.length := by
  induction ds using List.reverseRecOn with
  | nil => exact Nat.one_pos
  | append_singleton ds d ih =>
    obtain ⟨hds, hd⟩ := List.forall_mem_append.mp h
    have hlt : digitsValue base ds + 1 ≤ base ^ ds.length := ih hds
    have hd : d < base := hd d (List.mem_singleton_self d)
    rw [digitsValue_append_singleton, List.length_append, List.length_singleton, Nat.pow_succ]
    calc digitsValue base ds * base + d < (digitsValue base ds + 1) * base := by
          rw [Nat.add_mul]; omega
      _ ≤ base ^ ds.length * base := Nat.mul_le_mul_right base hlt

theorem lt_of_digitIn? {base d : Nat} {c : Char} (h : digitIn? base c = some d) : d < base := by
  unfold digitIn? at h
  split at h
  · split at h
    · cases h
      assumption
    · cases h
  · cases h

theorem lt_of_separatedDigits? {base : Nat} {cs : List Char} {ds : List Nat}
    (h : separatedDigits? base cs = some ds) : ∀ d ∈ ds, d < base := by
  induction cs using separatedDigits?.induct generalizing ds with
  | case1 => cases h
  | case2 c =>
    obtain ⟨d, hd, rfl⟩ := Option.map_eq_some_iff.mp h
    exact List.forall_mem_singleton.mpr (lt_of_digitIn? hd)
  | case3 c cs ih =>
    simp only [separatedDigits?, Option.bind_eq_bind, Option.bind_eq_some_iff] at h
    obtain ⟨d, hd, ds', hds, h⟩ := h
    cases h
    exact List.forall_mem_cons.mpr ⟨lt_of_digitIn? hd, ih hds⟩
  | case4 c cs hone hunderscore ih =>
    rw [separatedDigits?] at h
    · simp only [Option.bind_eq_bind, Option.bind_eq_some_iff] at h
      obtain ⟨d, hd, ds', hds, h⟩ := h
      cases h
      exact List.forall_mem_cons.mpr ⟨lt_of_digitIn? hd, ih hds⟩
    · exact hone
    · exact hunderscore

/-- **Digits are worth the number that they were made of**, for any way of reading single digits. -/
theorem exists_digitsValue_toDigits {base : Nat} {digit? : Char → Option Nat} (hbase : 1 < base)
    (hdigit : ∀ d < base, digit? d.digitChar = some d) (n : Nat) :
    ∃ ds : List Nat, (Nat.toDigits base n).map digit? = ds.map some ∧ digitsValue base ds = n := by
  induction n using Nat.strongRecOn with
  | ind n ih =>
    by_cases hsmall : n < base
    · rw [Nat.toDigits_of_lt_base hsmall]
      exact ⟨[n], by simp [hdigit n hsmall], by simp [digitsValue]⟩
    · have hle : base ≤ n := Nat.le_of_not_lt hsmall
      obtain ⟨ds, hds, hvalue⟩ := ih (n / base) (Nat.div_lt_self (by omega) hbase)
      refine ⟨ds ++ [n % base], ?_, ?_⟩
      · rw [Nat.toDigits_of_base_le hbase hle, List.map_append, hds, List.map_append]
        simp [hdigit _ (Nat.mod_lt n (by omega))]
      · rw [digitsValue_append_singleton, hvalue, Nat.mul_comm, Nat.div_add_mod]

/-! ### Decimal numbers -/

theorem decimalDigit?_digitChar : ∀ d < 10, decimalDigit? d.digitChar = some d := by decide

theorem numberOf_decimalDigits (n : Nat) : numberOf (decimalDigits n) = n := by
  obtain ⟨ds, hds, hvalue⟩ := exists_digitsValue_toDigits (by decide) decimalDigit?_digitChar n
  have hfilter : (decimalDigits n).filterMap decimalDigit? = ds := by
    have hid := congrArg (List.filterMap id) hds
    rwa [List.filterMap_map, List.filterMap_map, Function.id_comp, Function.id_comp,
      List.filterMap_some] at hid
  rw [numberOf, hfilter, hvalue]

theorem length_decimalDigits_le_iff {n k : Nat} (hk : 0 < k) :
    (decimalDigits n).length ≤ k ↔ n < tenTo k :=
  Nat.length_toDigits_le_iff (by decide) hk

/-- Only zero begins with the digit zero. -/
theorem head?_decimalDigits {n : Nat} (hn : n ≠ 0) : (decimalDigits n).head? ≠ some '0' := by
  induction n using Nat.strongRecOn with
  | ind n ih =>
    by_cases hsmall : n < 10
    · have hdigit : ∀ d < 10, d ≠ 0 → d.digitChar ≠ '0' := by decide
      rw [decimalDigits, Nat.toDigits_of_lt_base hsmall, List.head?_cons]
      exact fun h => hdigit n hsmall hn (Option.some.inj h)
    · have hhigh := ih (n / 10) (by omega) (by omega)
      rw [decimalDigits, Nat.toDigits_of_base_le (by decide) (by omega),
        List.head?_append_of_ne_nil _ Nat.toDigits_ne_nil]
      exact hhigh

/-- What can be read can be written again. -/
theorem natAbs_lt_of_readInteger {cs : List Char} {n : Int} (h : readInteger cs = .ok n) :
    n.natAbs < tenTo digitLimit := by
  rw [readInteger, readIntegerIn] at h
  dsimp only at h
  split at h
  · cases h
  · rename_i ds hds
    split at h
    · cases h
    · rename_i hlength
      simp only [Bool.and_eq_true, decide_eq_true_eq, true_and, Nat.not_lt] at hlength
      have hlt : digitsValue 10 ds < tenTo digitLimit :=
        Nat.lt_of_lt_of_le (digitsValue_lt (lt_of_separatedDigits? hds)) (tenTo_le_tenTo hlength)
      cases h
      split
      · rwa [Int.natAbs_neg, Int.natAbs_natCast]
      · rwa [Int.natAbs_natCast]

/-- Reading numerals never finds a number too large. -/
theorem ne_beyondDouble_of_readInteger {cs : List Char} {f : NumberFault}
    (h : readInteger cs = .error f) : f ≠ .beyondDouble := by
  rw [readInteger, readIntegerIn] at h
  dsimp only at h
  rintro rfl
  split at h
  · cases h
  · split at h <;> cases h

theorem ne_beyondDouble_of_readDouble {cs : List Char} {f : NumberFault}
    (h : readDouble cs = .error f) : f ≠ .beyondDouble := by
  rw [readDouble] at h
  dsimp only at h
  rintro rfl
  split at h <;> cases h

/-! ### Hexadecimal numbers -/

theorem asciiDigit?_digitChar : ∀ d < 16, asciiDigit? d.digitChar = some d := by decide

/-- Hexadecimal digits are worth their number, with zeros in front of them or without. -/
theorem exists_digitsValue_hexDigits (width n : Nat) :
    ∃ ds : List Nat, (hexDigits width n).map asciiDigit? = ds.map some ∧
      digitsValue 16 ds = n := by
  obtain ⟨ds, hds, hvalue⟩ := exists_digitsValue_toDigits (by decide) asciiDigit?_digitChar n
  refine ⟨List.replicate (width - (Nat.toDigits 16 n).length) 0 ++ ds, ?_, ?_⟩
  · have hzero : asciiDigit? '0' = some 0 := by decide
    rw [hexDigits, List.map_append, hds, List.map_replicate, hzero, List.map_append,
      List.map_replicate]
  · rw [digitsValue_replicate_zero, hvalue]

theorem length_hexDigits {width n : Nat} (hwidth : 0 < width) (h : n < 16 ^ width) :
    (hexDigits width n).length = width := by
  have hle := (Nat.length_toDigits_le_iff (b := 16) (by decide) hwidth).mpr h
  rw [hexDigits, List.length_append, List.length_replicate]
  omega

end StepFlow
