import StepFlow.Number.Shortest

/-!
# Dates and times

The Gregorian calendar for the years 1 to 9999, and the ISO 8601 text of dates, times and instants.

## Main definitions

* `Date`, `DateTime` — calendar values; a `DateTime` may carry an offset from UTC
* `Date.ofDays`, `Date.toDays` — days counted from 1 January of year 1
* `Instant` — microseconds counted from the same day, in UTC
* `Date.iso`, `DateTime.iso`, `Instant.iso` — ISO 8601 text
-/

namespace StepFlow

/-- A calendar date. -/
structure Date where
  year : Nat
  month : Nat
  day : Nat
  deriving DecidableEq, Repr, Inhabited

/-- A date and a time of day, with the offset from UTC in seconds if it is known. -/
structure DateTime where
  date : Date
  hour : Nat
  minute : Nat
  second : Nat
  microsecond : Nat
  offset : Option Int
  deriving DecidableEq, Repr, Inhabited

/-! ### Counting days -/

namespace Date

def isLeap (year : Nat) : Bool :=
  year % 4 = 0 && (year % 100 ≠ 0 || year % 400 = 0)

/-- Days from the beginning of year 1 to the beginning of `year`. -/
def daysBeforeYear (year : Nat) : Nat :=
  let y := year - 1
  365 * y + y / 4 - y / 100 + y / 400

/-- Days from the beginning of a year to the beginning of a month. -/
def daysBeforeMonth (leap : Bool) (month : Nat) : Nat :=
  let plain := match month with
    | 1 => 0 | 2 => 31 | 3 => 59 | 4 => 90 | 5 => 120 | 6 => 151
    | 7 => 181 | 8 => 212 | 9 => 243 | 10 => 273 | 11 => 304 | _ => 334
  if leap && 2 < month then plain + 1 else plain

def daysInMonth (year month : Nat) : Nat :=
  if month = 2 then (if isLeap year then 29 else 28)
  else if month = 4 || month = 6 || month = 9 || month = 11 then 30
  else 31

/-- The date exists. -/
def isValid (d : Date) : Bool :=
  1 ≤ d.year && d.year ≤ 9999 && 1 ≤ d.month && d.month ≤ 12
    && 1 ≤ d.day && d.day ≤ daysInMonth d.year d.month

/-- Days from 1 January of year 1. -/
def toDays (d : Date) : Nat :=
  daysBeforeYear d.year + daysBeforeMonth (isLeap d.year) d.month + (d.day - 1)

/-- The year in which day number `n` lies. -/
def yearOfDays (n : Nat) : Nat :=
  -- The mean year has 146097 / 400 days, and no year begins a whole year away from its mean.
  let y := n * 400 / 146097 + 1
  if daysBeforeYear (y + 1) ≤ n then y + 1
  else if daysBeforeYear y ≤ n then y
  else y - 1

/-- The month in which day number `n` of a year lies. -/
def monthOfDays (leap : Bool) (n : Nat) : Nat :=
  ((List.range 12).filter fun m => daysBeforeMonth leap (m + 1) ≤ n).length

/-- The date of day number `n`. -/
def ofDays (n : Nat) : Date :=
  let year := yearOfDays n
  let rest := n - daysBeforeYear year
  let month := monthOfDays (isLeap year) rest
  ⟨year, month, rest - daysBeforeMonth (isLeap year) month + 1⟩

end Date

/-! ### Text -/

/-- Decimal digits of `n`, at least `width` of them. -/
def paddedDecimal (width n : Nat) : List Char :=
  let ds := decimalDigits n
  List.replicate (width - ds.length) '0' ++ ds

private def padded (width n : Nat) : String := String.ofList (paddedDecimal width n)

/-- `2025-01-02`. -/
def Date.iso (d : Date) : String :=
  padded 4 d.year ++ "-" ++ padded 2 d.month ++ "-" ++ padded 2 d.day

/-- An offset from UTC: `+05:30`, with seconds only if there are any. -/
def offsetText (seconds : Int) : String :=
  let n := seconds.natAbs
  (if seconds < 0 then "-" else "+") ++ padded 2 (n / 3600) ++ ":" ++ padded 2 (n / 60 % 60)
    ++ (if n % 60 = 0 then "" else ":" ++ padded 2 (n % 60))

namespace DateTime

/-- `03:04:05`, with six digits of fraction unless it is zero. -/
def clockText (t : DateTime) : String :=
  padded 2 t.hour ++ ":" ++ padded 2 t.minute ++ ":" ++ padded 2 t.second
    ++ (if t.microsecond = 0 then "" else "." ++ padded 6 t.microsecond)

/-- Date and time joined by a separator, then the offset if there is one. -/
def textWith (separator : String) (t : DateTime) : String :=
  t.date.iso ++ separator ++ t.clockText ++ (t.offset.map offsetText).getD ""

/-- `2025-01-02T03:04:05+00:00`. -/
def iso (t : DateTime) : String := t.textWith "T"

/-- Microseconds from the beginning of year 1 in the time's own clock. -/
def localMicroseconds (t : DateTime) : Int :=
  ((((t.date.toDays * 24 + t.hour) * 60 + t.minute) * 60 + t.second) * 1000000 + t.microsecond : Nat)

/-- Two times are equal if both know their offset and denote the same instant, or neither does and
they read the same. -/
def sameTime (s t : DateTime) : Bool :=
  match s.offset, t.offset with
  | some a, some b =>
    s.localMicroseconds - a * 1000000 == t.localMicroseconds - b * 1000000
  | none, none => s.localMicroseconds == t.localMicroseconds
  | _, _ => false

end DateTime

/-! ### Instants -/

/-- A moment in UTC: microseconds from the beginning of year 1. -/
structure Instant where
  microseconds : Nat
  deriving DecidableEq, Repr, Inhabited

namespace Instant

/-- The date and time of an instant in UTC. -/
def toDateTime (t : Instant) : DateTime :=
  let seconds := t.microseconds / 1000000
  { date := Date.ofDays (seconds / 86400)
    hour := seconds / 3600 % 24
    minute := seconds / 60 % 60
    second := seconds % 60
    microsecond := t.microseconds % 1000000
    offset := some 0 }

/-- `2025-01-02T03:04:05+00:00`. -/
def iso (t : Instant) : String := t.toDateTime.iso

/-- The whole seconds in the form `20250102T030405Z`. -/
def compact (t : Instant) : String :=
  let d := t.toDateTime
  padded 4 d.date.year ++ padded 2 d.date.month ++ padded 2 d.date.day
    ++ "T" ++ padded 2 d.hour ++ padded 2 d.minute ++ padded 2 d.second ++ "Z"

/-- Whole milliseconds from `s` to `t`: the seconds between them are rounded to a double, multiplied
by a thousand as one, and cut toward zero. -/
def millisecondsBetween (s t : Instant) : Int :=
  let elapsed : Int := (t.microseconds : Int) - s.microseconds
  let seconds := Double.round (elapsed < 0) elapsed.natAbs 1000000
  ((seconds.mul (Double.ofInt 1000)).truncate?).getD 0

end Instant

end StepFlow
