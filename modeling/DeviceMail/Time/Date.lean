/-
  DeviceMail — dates of the Gregorian calendar, extended to all years.

  Days are counted from the first of January of the year 1970, which is day 0.

  * `Date.dayNumber` and `Date.ofDayNumber` convert between dates and days;
    `daysBefore_yearOfDay` says that the year found for a day is the right one;
  * `Date.Valid` says which dates exist.
-/
import DeviceMail.Text.Decimal

namespace DeviceMail

/-- A date.  Months and days count from one. -/
structure Date where
  year : Int
  month : Nat
  day : Nat
  deriving DecidableEq, Repr

namespace Date

/-! ## Years -/

/-- Every fourth year is a leap year, but of the full centuries only every
    fourth. -/
def isLeap (year : Int) : Bool := year % 4 = 0 && (year % 100 ≠ 0 || year % 400 = 0)

/-- The days from the first day of the year 1 to the first day of `year`. -/
def daysBefore (year : Int) : Int :=
  let n := year - 1
  365 * n + n / 4 - n / 100 + n / 400

/-- The day number of the first day of the year 1. -/
def firstDay : Int := -719162

/-- The year that holds a day, counted from the first day of the year 1.  An
    average year has 146097 / 400 days; the year found with it is at most one
    off. -/
def yearOfDay (days : Int) : Int :=
  let year := days * 400 / 146097 + 1
  if days < daysBefore year then year - 1
  else if daysBefore (year + 1) ≤ days then year + 1
  else year

theorem daysBefore_succ (year : Int) :
    daysBefore (year + 1) = daysBefore year + if isLeap year then 366 else 365 := by
  by_cases h : isLeap year = true
  · simp only [h, if_true, daysBefore]
    simp only [isLeap, Bool.and_eq_true, Bool.or_eq_true, decide_eq_true_eq] at h
    omega
  · simp only [h, daysBefore]
    simp only [isLeap, Bool.and_eq_true, Bool.or_eq_true, decide_eq_true_eq] at h
    simp only [Bool.false_eq_true, if_false]
    omega

/-- A day lies in the year that is found for it. -/
theorem daysBefore_yearOfDay (days : Int) :
    daysBefore (yearOfDay days) ≤ days ∧ days < daysBefore (yearOfDay days + 1) := by
  unfold yearOfDay
  simp only
  generalize hn : days * 400 / 146097 = n
  have hd : 146097 * n ≤ days * 400 ∧ days * 400 < 146097 * n + 146097 := by omega
  clear hn
  split
  · rename_i h
    refine ⟨?_, by simpa using h⟩
    simp only [daysBefore] at *
    omega
  · split
    · rename_i h
      refine ⟨h, ?_⟩
      simp only [daysBefore] at *
      omega
    · omega

/-! ## Months -/

/-- The lengths of the months of a year. -/
def monthLengths (leap : Bool) : List Nat :=
  [31, if leap then 29 else 28, 31, 30, 31, 30, 31, 31, 30, 31, 30, 31]

/-- The position of a day among months of the given lengths: the index of its
    month and its index within that month. -/
def splitMonths : List Nat → Nat → Nat × Nat
  | [], day => (0, day)
  | length :: rest, day =>
    if day < length then (0, day)
    else
      let (month, day) := splitMonths rest (day - length)
      (month + 1, day)

/-! ## Dates and days -/

/-- A date that exists in the calendar. -/
def Valid (date : Date) : Prop :=
  1 ≤ date.month ∧ date.month ≤ 12 ∧ 1 ≤ date.day ∧
    date.day ≤ (monthLengths (isLeap date.year)).getD (date.month - 1) 0

instance (date : Date) : Decidable date.Valid := by unfold Valid; infer_instance

/-- The days of a year before a month. -/
def daysBeforeMonth (leap : Bool) (month : Nat) : Nat :=
  ((monthLengths leap).take (month - 1)).foldl (· + ·) 0

/-- The day number of a date. -/
def dayNumber (date : Date) : Int :=
  firstDay + daysBefore date.year +
    (daysBeforeMonth (isLeap date.year) date.month + (date.day - 1) : Nat)

/-- The date of a day number. -/
def ofDayNumber (number : Int) : Date :=
  let days := number - firstDay
  let year := yearOfDay days
  let (month, day) := splitMonths (monthLengths (isLeap year)) (days - daysBefore year).toNat
  ⟨year, month + 1, day + 1⟩

example : dayNumber ⟨1970, 1, 1⟩ = 0 := by decide
example : ofDayNumber 11016 = ⟨2000, 2, 29⟩ := by decide

/-! ## Text -/

/-- A year: four digits from 0 to 9999, and outside of that a sign and at least
    four digits. -/
def yearText : Int → List Char
  | .ofNat n => if n ≤ 9999 then Decimal.padded 4 n else '+' :: Decimal.padded 4 n
  | .negSucc n => '-' :: Decimal.padded 4 (n + 1)

/-- Year, month and day, with dashes between them. -/
def text (date : Date) : List Char :=
  yearText date.year ++ '-' :: Decimal.padded 2 date.month ++ '-' :: Decimal.padded 2 date.day

end Date

end DeviceMail
