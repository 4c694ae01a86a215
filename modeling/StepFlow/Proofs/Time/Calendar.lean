import StepFlow.Number.Power
import StepFlow.Time.Calendar
import Mathlib.Data.List.Basic
import Mathlib.Order.Monotone.Basic

/-!
# The order of time in its text

The compact text of an instant shows the year first and the second last, each with a fixed number of
digits. So two such texts are in the order of their instants, and what stands behind them does not
matter as long as the instants lie in different seconds.

There are two things to show. The calendar keeps the order of days: `Date.row` of a later day is
later, where rows of numbers are compared like words. And the digits keep the order of rows, which
they do if each number has room in its column. A year has four digits until the end of 9999; all
other numbers are small enough by the calendar.

## Main definitions

* `Date.row`, `Instant.clockRow` — a date and a time of day, the largest unit first
* `rowText` — a row in columns of digits
* `Instant.second` — the seconds from the beginning of year 1

## Main results

* `Date.row_ofDays_lt` — the calendar keeps the order of days
* `rowText_append_lt` — columns keep the order of rows
* `Instant.compact_append_lt` — compact texts are in the order of their instants
-/

namespace StepFlow

/-! ### Years, months and days -/

namespace Date

variable {m n : Nat}

theorem daysBeforeYear_mono : Monotone daysBeforeYear :=
  monotone_nat_of_le_succ fun y => by
    unfold daysBeforeYear
    dsimp only
    omega

/-- **A day lies in its year.** -/
theorem yearOfDays_spec (n : Nat) :
    daysBeforeYear (yearOfDays n) ≤ n ∧ n < daysBeforeYear (yearOfDays n + 1) := by
  unfold yearOfDays
  dsimp only
  split
  · refine ⟨‹_›, ?_⟩
    unfold daysBeforeYear
    dsimp only
    omega
  · rename_i hnext
    split
    · exact ⟨‹_›, Nat.lt_of_not_le hnext⟩
    · rename_i hthis
      unfold daysBeforeYear at hthis ⊢
      dsimp only at hthis ⊢
      omega

/-- No year has more than 366 days. -/
theorem sub_daysBeforeYear_lt (n : Nat) : n - daysBeforeYear (yearOfDays n) < 366 := by
  obtain ⟨-, hnext⟩ := yearOfDays_spec n
  unfold daysBeforeYear at hnext ⊢
  dsimp only at hnext ⊢
  omega

theorem yearOfDays_mono (h : m ≤ n) : yearOfDays m ≤ yearOfDays n := by
  by_contra hlt
  have hle := daysBeforeYear_mono (Nat.succ_le_of_lt (Nat.lt_of_not_le hlt))
  have hm := (yearOfDays_spec m).1
  have hn := (yearOfDays_spec n).2
  rw [Nat.succ_eq_add_one] at hle
  omega

/-- **A day of a year lies in its month**, and not far behind its beginning. -/
theorem monthOfDays_spec : ∀ leap, ∀ n < 366,
    daysBeforeMonth leap (monthOfDays leap n) ≤ n ∧
      n < daysBeforeMonth leap (monthOfDays leap n) + 32 := by
  decide +kernel

theorem monthOfDays_le (leap : Bool) (n : Nat) : monthOfDays leap n ≤ 12 :=
  List.length_filter_le _ _

theorem monthOfDays_mono (leap : Bool) (h : m ≤ n) : monthOfDays leap m ≤ monthOfDays leap n := by
  refine (List.monotone_filter_right _ fun i hi => ?_).length_le
  rw [decide_eq_true_eq] at hi ⊢
  exact Nat.le_trans hi h

/-- A date as a row of numbers, the largest unit first. -/
def row (d : Date) : List Nat := [d.year, d.month, d.day]

/-- **The calendar keeps the order of days.** -/
theorem row_ofDays_lt (h : m < n) : (ofDays m).row < (ofDays n).row := by
  simp only [row, ofDays, List.cons_lt_cons_iff]
  rcases Nat.lt_or_eq_of_le (yearOfDays_mono (Nat.le_of_lt h)) with hyear | hyear
  · exact .inl hyear
  · rw [← hyear]
    have hin := (yearOfDays_spec m).1
    have hday := sub_daysBeforeYear_lt m
    generalize isLeap (yearOfDays m) = leap
    generalize daysBeforeYear (yearOfDays m) = first at hin hday
    refine .inr ⟨rfl, ?_⟩
    rcases Nat.lt_or_eq_of_le
      (monthOfDays_mono leap (Nat.sub_le_sub_right (Nat.le_of_lt h) first)) with hmonth | hmonth
    · exact .inl hmonth
    · have hfirst := (monthOfDays_spec leap (m - first) hday).1
      rw [← hmonth]
      exact .inr ⟨rfl, .inl (by omega)⟩

end Date

/-! ### Columns of digits -/

/-- One digit more. -/
theorem paddedDecimal_succ {width : Nat} (hwidth : 0 < width) (n : Nat) :
    paddedDecimal (width + 1) n = paddedDecimal width (n / 10) ++ [(n % 10).digitChar] := by
  unfold paddedDecimal decimalDigits
  dsimp only
  by_cases hsmall : n < 10
  · rw [Nat.div_eq_of_lt hsmall, Nat.mod_eq_of_lt hsmall, Nat.toDigits_of_lt_base hsmall,
      Nat.toDigits_of_lt_base (by decide)]
    obtain ⟨k, rfl⟩ := Nat.exists_eq_succ_of_ne_zero (Nat.ne_of_gt hwidth)
    simp [List.replicate_succ']
  · rw [Nat.toDigits_of_base_le (by decide) (Nat.le_of_not_lt hsmall), List.length_append,
      List.length_singleton, Nat.add_sub_add_right, List.append_assoc]

/-- A number fits into a column. -/
def Fits (width n : Nat) : Prop := 0 < width ∧ n < tenTo width

theorem length_paddedDecimal {width n : Nat} (h : Fits width n) :
    (paddedDecimal width n).length = width := by
  have hle := (Nat.length_toDigits_le_iff (b := 10) (by decide) h.1).mpr h.2
  unfold paddedDecimal decimalDigits
  rw [List.length_append, List.length_replicate]
  omega

theorem append_lt_append {a b : List Char} (hlength : a.length = b.length) (h : a < b)
    (x y : List Char) : a ++ x < b ++ y := by
  induction a generalizing b with
  | nil =>
    rw [List.eq_nil_of_length_eq_zero hlength.symm] at h
    exact absurd h (List.lt_irrefl [])
  | cons c a ih =>
    obtain ⟨d, b, rfl⟩ := List.exists_cons_of_length_eq_add_one hlength.symm
    rw [List.cons_lt_cons_iff] at h
    rw [List.cons_append, List.cons_append, List.cons_lt_cons_iff]
    exact h.imp_right fun h => ⟨h.1, ih (Nat.succ.inj hlength) h.2⟩

/-- **A column keeps the order of numbers.** -/
theorem paddedDecimal_lt {width m n : Nat} (hfits : Fits width n) (h : m < n) :
    paddedDecimal width m < paddedDecimal width n := by
  obtain ⟨hwidth, hn⟩ := hfits
  obtain ⟨k, rfl⟩ := Nat.exists_eq_succ_of_ne_zero (Nat.ne_of_gt hwidth)
  induction k generalizing m n with
  | zero =>
    have hdigits : ∀ n < 10, ∀ m < n, paddedDecimal 1 m < paddedDecimal 1 n := by decide
    exact hdigits n hn m h
  | succ k ih =>
    have hwidth : 0 < k + 1 := Nat.succ_pos k
    have hn : n < 10 ^ (k + 2) := hn
    have hn' : n / 10 < tenTo (k + 1) := Nat.div_lt_of_lt_mul (by rwa [Nat.pow_succ'] at hn)
    rw [paddedDecimal_succ hwidth, paddedDecimal_succ hwidth]
    rcases Nat.lt_or_eq_of_le (Nat.div_le_div_right (c := 10) (Nat.le_of_lt h)) with hhigh | hhigh
    · have hm' : m / 10 < tenTo (k + 1) := Nat.lt_trans hhigh hn'
      refine append_lt_append ?_ (ih hhigh hwidth hn') _ _
      rw [length_paddedDecimal ⟨hwidth, hm'⟩, length_paddedDecimal ⟨hwidth, hn'⟩]
    · have hlow : ∀ n < 10, ∀ m < n, [m.digitChar] < [n.digitChar] := by decide
      rw [hhigh]
      exact List.append_left_lt (hlow _ (Nat.mod_lt n (by decide)) _ (by omega))

/-- A row of numbers in columns of digits. -/
def rowText (widths row : List Nat) : List Char := (List.zipWith paddedDecimal widths row).flatten

/-- **Columns keep the order of rows**, whatever stands behind them. -/
theorem rowText_append_lt {widths row row' : List Nat} (hrow : List.Forall₂ Fits widths row)
    (hrow' : List.Forall₂ Fits widths row') (h : row < row') (x y : List Char) :
    rowText widths row ++ x < rowText widths row' ++ y := by
  induction hrow generalizing row' with
  | nil =>
    cases hrow'
    exact absurd h (List.lt_irrefl [])
  | @cons width n widths row hn _ ih =>
    cases hrow' with
    | cons hn' hrest' =>
      simp only [rowText, List.zipWith_cons_cons, List.flatten_cons, List.append_assoc]
      rcases List.cons_lt_cons_iff.mp h with hlt | ⟨rfl, hlt⟩
      · refine append_lt_append ?_ (paddedDecimal_lt hn' hlt) _ _
        rw [length_paddedDecimal hn, length_paddedDecimal hn']
      · exact List.append_left_lt (ih hrest' hlt)

/-! ### Instants -/

namespace Instant

variable {s t : Instant}

/-- The seconds from the beginning of year 1. -/
def second (t : Instant) : Nat := t.microseconds / 1000000

/-- The time of day as a row of numbers, the largest unit first. -/
def clockRow (t : Instant) : List Nat :=
  [t.toDateTime.hour, t.toDateTime.minute, t.toDateTime.second]

theorem toList_compact (t : Instant) : t.compact.toList =
    rowText [4, 2, 2] t.toDateTime.date.row ++ 'T' :: (rowText [2, 2, 2] t.clockRow ++ ['Z']) := by
  change (String.ofList _ ++ String.ofList _ ++ String.ofList _ ++ "T" ++ String.ofList _ ++
    String.ofList _ ++ String.ofList _ ++ "Z").toList = _
  simp [rowText, Date.row, clockRow]

/-- A date until the end of 9999 fits into its columns. -/
theorem fits_date (h : t.toDateTime.date.year ≤ 9999) :
    List.Forall₂ Fits [4, 2, 2] t.toDateTime.date.row := by
  have hmonth := Date.monthOfDays_le
  have hday (n : Nat) := (Date.monthOfDays_spec (Date.isLeap (Date.yearOfDays n)) _
    (Date.sub_daysBeforeYear_lt n)).2
  refine .cons ⟨by decide, Nat.lt_succ_of_le h⟩ (.cons ⟨by decide, ?_⟩ (.cons ⟨by decide, ?_⟩ .nil))
  · exact Nat.lt_of_le_of_lt (hmonth _ _) (by decide)
  · change _ - _ + 1 < 100
    have := hday (t.microseconds / 1000000 / 86400)
    omega

theorem fits_clock (t : Instant) : List.Forall₂ Fits [2, 2, 2] t.clockRow := by
  have hmod (a : Nat) {b : Nat} (hb : 0 < b ∧ b ≤ 100) : Fits 2 (a % b) :=
    ⟨by decide, Nat.lt_of_lt_of_le (Nat.mod_lt a hb.1) hb.2⟩
  exact .cons (hmod _ (by decide)) (.cons (hmod _ (by decide)) (.cons (hmod _ (by decide)) .nil))

/-- **Compact texts are in the order of their instants**, whatever stands behind them. -/
theorem compact_append_lt (hs : s.toDateTime.date.year ≤ 9999) (ht : t.toDateTime.date.year ≤ 9999)
    (h : s.second < t.second) (x y : List Char) :
    s.compact.toList ++ x < t.compact.toList ++ y := by
  rw [toList_compact, toList_compact, List.append_assoc, List.append_assoc]
  rcases Nat.lt_or_eq_of_le (Nat.div_le_div_right (c := 86400) (Nat.le_of_lt h)) with hday | hday
  · exact rowText_append_lt (fits_date hs) (fits_date ht) (Date.row_ofDays_lt hday) _ _
  · have hdate : s.toDateTime.date = t.toDateTime.date := congrArg Date.ofDays hday
    have hclock : s.clockRow < t.clockRow := by
      simp only [clockRow, toDateTime, List.cons_lt_cons_iff, List.lt_irrefl, and_false, or_false]
      unfold second at h hday
      omega
    rw [hdate, List.cons_append, List.cons_append, List.append_assoc, List.append_assoc]
    exact List.append_left_lt (List.cons_lt_cons_iff.mpr
      (.inr ⟨rfl, rowText_append_lt (fits_clock s) (fits_clock t) hclock _ _⟩))

end Instant

end StepFlow
