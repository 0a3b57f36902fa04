/-
  DeviceMail — the calendar counts days.

  * `valid_ofDayNumber` and `dayNumber_ofDayNumber`: every day has a date that
    exists, and the number of this date is that of the day;
  * `compare_dayNumber`: dates are in the order of their numbers, so that no two
    have the same (`eq_of_dayNumber_eq`);
  * `dayNumber_tomorrow` and `ofDayNumber_succ`: from a date to the next one the
    number grows by one, and the dates of successive days follow each other.
-/
import DeviceMail.Time.Date
import Mathlib.Algebra.Order.BigOperators.Group.List
import Mathlib.Algebra.Order.Group.Nat
import Mathlib.Tactic.IntervalCases

namespace DeviceMail

/-- Numbers that lie in blocks are in the order of their blocks, and within one
    block in an order of their own. -/
theorem compare_eq_then {α β : Type} [LinearOrder α] [LinearOrder β] {q q' : α} {x x' : β}
    {o : Ordering} (hlt : q < q' → x < x') (hgt : q' < q → x' < x)
    (heq : q = q' → compare x x' = o) : compare x x' = (compare q q').then o := by
  rcases lt_trichotomy q q' with h | h | h
  · rw [compare_lt_iff_lt.2 h, compare_lt_iff_lt.2 (hlt h), Ordering.lt_then]
  · rw [compare_eq_iff_eq.2 h, heq h, Ordering.eq_then]
  · rw [compare_gt_iff_gt.2 h, compare_gt_iff_gt.2 (hgt h), Ordering.gt_then]

theorem compare_congr {α β : Type} [LinearOrder α] [LinearOrder β] {x x' : α} {y y' : β}
    (hlt : x < x' ↔ y < y') (hgt : x' < x ↔ y' < y) : compare x x' = compare y y' := by
  rcases lt_trichotomy x x' with h | h | h
  · rw [compare_lt_iff_lt.2 h, compare_lt_iff_lt.2 (hlt.1 h)]
  · have hy : y = y' := le_antisymm (not_lt.1 fun hy => (hgt.2 hy).ne h.symm)
      (not_lt.1 fun hy => (hlt.2 hy).ne h)
    rw [compare_eq_iff_eq.2 h, compare_eq_iff_eq.2 hy]
  · rw [compare_gt_iff_gt.2 h, compare_gt_iff_gt.2 (hgt.1 h)]

namespace Date

/-! ## Years and months -/

theorem daysBefore_le_of_le {year later : Int} (h : year ≤ later) :
    daysBefore year ≤ daysBefore later := by
  refine monotone_int_of_le_succ (fun year => ?_) h
  rw [daysBefore_succ]
  split_ifs <;> omega

theorem daysBefore_succ_eq_add_sum (year : Int) :
    daysBefore (year + 1) = daysBefore year + ((monthLengths (isLeap year)).sum : Nat) := by
  rw [daysBefore_succ]
  cases isLeap year <;> rfl

theorem daysBeforeMonth_eq_sum (leap : Bool) (month : Nat) :
    daysBeforeMonth leap month = ((monthLengths leap).take (month - 1)).sum :=
  List.sum_eq_foldl.symm

theorem daysBeforeMonth_le_sum (leap : Bool) (month : Nat) :
    daysBeforeMonth leap month ≤ (monthLengths leap).sum := by
  rw [daysBeforeMonth_eq_sum]
  exact (List.take_sublist _ _).sum_le_sum fun _ _ => Nat.zero_le _

theorem daysBeforeMonth_le_of_le (leap : Bool) {month later : Nat} (h : month ≤ later) :
    daysBeforeMonth leap month ≤ daysBeforeMonth leap later := by
  rw [daysBeforeMonth_eq_sum, daysBeforeMonth_eq_sum]
  exact List.monotone_sum_take _ (Nat.sub_le_sub_right h 1)

theorem daysBeforeMonth_succ {leap : Bool} {month : Nat} (h : 1 ≤ month ∧ month ≤ 12) :
    daysBeforeMonth leap (month + 1) =
      daysBeforeMonth leap month + (monthLengths leap).getD (month - 1) 0 := by
  obtain ⟨hlow, hhigh⟩ := h
  cases leap <;> interval_cases month <;> rfl

theorem day_le {date : Date} (h : date.Valid) : date.day ≤ 31 := by
  obtain ⟨hlow, hhigh, -, hday⟩ := h
  have hlengths : ∀ leap, ∀ length ∈ monthLengths leap, length ≤ 31 := by decide
  have hindex : date.month - 1 < (monthLengths (isLeap date.year)).length := by
    show date.month - 1 < 12
    omega
  rw [List.getD_eq_getElem?_getD, List.getElem?_eq_getElem hindex, Option.getD_some] at hday
  exact hday.trans (hlengths _ _ (List.getElem_mem hindex))

/-! ## Days within a year -/

/-- A position among months is split into a month and a day of that month, and
    nothing is lost. -/
theorem splitMonths_of_lt_sum {lengths : List Nat} {day : Nat} (h : day < lengths.sum) :
    (splitMonths lengths day).1 < lengths.length ∧
      (splitMonths lengths day).2 < lengths.getD (splitMonths lengths day).1 0 ∧
      (lengths.take (splitMonths lengths day).1).sum + (splitMonths lengths day).2 = day := by
  fun_induction splitMonths lengths day with
  | case1 day => simp at h
  | case2 day length rest hday => simp [hday]
  | case3 day length rest hday month place hsplit ih =>
    rw [List.sum_cons] at h
    obtain ⟨hmonth, hplace, hsum⟩ := ih (by omega)
    simp only [hsplit] at hmonth hplace hsum
    refine ⟨Nat.succ_lt_succ hmonth, by simpa using hplace, ?_⟩
    simp only [List.take_succ_cons, List.sum_cons]
    omega

/-- The index of a day within the year. -/
def dayOfYear (date : Date) : Nat :=
  daysBeforeMonth (isLeap date.year) date.month + (date.day - 1)

theorem dayNumber_eq_dayOfYear (date : Date) :
    date.dayNumber = firstDay + daysBefore date.year + date.dayOfYear := rfl

theorem dayOfYear_lt_of_month {date : Date} (h : date.Valid) :
    date.dayOfYear < daysBeforeMonth (isLeap date.year) (date.month + 1) := by
  obtain ⟨hlow, hhigh, hone, hday⟩ := h
  rw [daysBeforeMonth_succ ⟨hlow, hhigh⟩, dayOfYear]
  omega

theorem dayOfYear_lt {date : Date} (h : date.Valid) :
    date.dayOfYear < (monthLengths (isLeap date.year)).sum :=
  (dayOfYear_lt_of_month h).trans_le (daysBeforeMonth_le_sum _ _)

theorem dayNumber_lt_iff {date : Date} (h : date.Valid) (year : Int) :
    date.dayNumber < firstDay + daysBefore year ↔ date.year < year := by
  rw [dayNumber_eq_dayOfYear]
  constructor
  · intro hbefore
    by_contra hyear
    have hmono := daysBefore_le_of_le (not_lt.1 hyear)
    omega
  · intro hyear
    have hlt := dayOfYear_lt h
    have hmono : daysBefore (date.year + 1) ≤ daysBefore year := daysBefore_le_of_le hyear
    rw [daysBefore_succ_eq_add_sum] at hmono
    omega

/-! ## Every day has a date -/

section
variable (number : Int)

theorem dayOfYear_ofDayNumber_lt :
    (number - firstDay - daysBefore (yearOfDay (number - firstDay))).toNat <
      (monthLengths (isLeap (yearOfDay (number - firstDay)))).sum := by
  obtain ⟨hlow, hhigh⟩ := daysBefore_yearOfDay (number - firstDay)
  rw [daysBefore_succ_eq_add_sum] at hhigh
  omega

/-- **Every day has a date that exists.** -/
theorem valid_ofDayNumber : (ofDayNumber number).Valid := by
  obtain ⟨hmonth, hday, -⟩ := splitMonths_of_lt_sum (dayOfYear_ofDayNumber_lt number)
  exact ⟨Nat.succ_pos _, hmonth, Nat.succ_pos _, hday⟩

/-- **The number of the date of a day is that of the day.** -/
theorem dayNumber_ofDayNumber : (ofDayNumber number).dayNumber = number := by
  obtain ⟨-, -, hsum⟩ := splitMonths_of_lt_sum (dayOfYear_ofDayNumber_lt number)
  have hday : ((ofDayNumber number).dayOfYear : Int) =
      number - firstDay - daysBefore (yearOfDay (number - firstDay)) := by
    rw [dayOfYear, daysBeforeMonth_eq_sum]
    refine (congrArg Nat.cast hsum).trans (Int.toNat_of_nonneg ?_)
    have := (daysBefore_yearOfDay (number - firstDay)).1
    omega
  have hyear : (ofDayNumber number).year = yearOfDay (number - firstDay) := rfl
  rw [dayNumber_eq_dayOfYear, hday, hyear]
  omega

end

/-! ## The order of dates -/

/-- **Dates are in the order of their numbers**: by year, then by month, then by
    day. -/
theorem compare_dayNumber {a b : Date} (ha : a.Valid) (hb : b.Valid) :
    compare a.dayNumber b.dayNumber =
      (compare a.year b.year).then ((compare a.month b.month).then (compare a.day b.day)) := by
  have year_lt {a b : Date} (ha : a.Valid) (h : a.year < b.year) : a.dayNumber < b.dayNumber := by
    have hbefore := (dayNumber_lt_iff ha b.year).2 h
    rw [dayNumber_eq_dayOfYear b]
    omega
  have month_lt {a b : Date} (ha : a.Valid) (hyear : a.year = b.year) (h : a.month < b.month) :
      a.dayOfYear < b.dayOfYear := by
    have hnext := dayOfYear_lt_of_month ha
    have hmono := daysBeforeMonth_le_of_le (isLeap a.year) (Nat.succ_le_of_lt h)
    rw [dayOfYear.eq_def b, ← hyear]
    exact (hnext.trans_le hmono).trans_le (Nat.le_add_right _ _)
  refine compare_eq_then (year_lt ha) (year_lt hb) fun hyear => ?_
  have hdays : compare a.dayNumber b.dayNumber = compare a.dayOfYear b.dayOfYear := by
    rw [dayNumber_eq_dayOfYear, dayNumber_eq_dayOfYear, hyear]
    exact compare_congr (by omega) (by omega)
  rw [hdays]
  refine compare_eq_then (month_lt ha hyear) (month_lt hb hyear.symm) fun hmonth => ?_
  obtain ⟨-, -, hone, -⟩ := ha
  obtain ⟨-, -, hone', -⟩ := hb
  rw [dayOfYear, dayOfYear, hyear, hmonth]
  exact compare_congr (by omega) (by omega)

theorem eq_of_dayNumber_eq {a b : Date} (ha : a.Valid) (hb : b.Valid)
    (h : a.dayNumber = b.dayNumber) : a = b := by
  have hcompare := compare_dayNumber ha hb
  rw [compare_eq_iff_eq.2 h, eq_comm, Ordering.then_eq_eq, Ordering.then_eq_eq, compare_eq_iff_eq,
    compare_eq_iff_eq, compare_eq_iff_eq] at hcompare
  obtain ⟨hyear, hmonth, hday⟩ := hcompare
  cases a
  cases b
  simp only at hyear hmonth hday
  rw [hyear, hmonth, hday]

/-! ## From one date to the next -/

/-- The next date: the next day of the month, or else the first of the next
    month, or else the first day of the next year. -/
def tomorrow (date : Date) : Date :=
  if date.day < (monthLengths (isLeap date.year)).getD (date.month - 1) 0 then
    ⟨date.year, date.month, date.day + 1⟩
  else if date.month < 12 then ⟨date.year, date.month + 1, 1⟩
  else ⟨date.year + 1, 1, 1⟩

theorem valid_first (year : Int) {month : Nat} (h : 1 ≤ month ∧ month ≤ 12) :
    Valid ⟨year, month, 1⟩ := by
  refine ⟨h.1, h.2, Nat.le_refl 1, ?_⟩
  obtain ⟨hlow, hhigh⟩ := h
  show 1 ≤ (monthLengths (isLeap year)).getD (month - 1) 0
  cases isLeap year <;> interval_cases month <;> decide

/-- **From a date to the next one the number grows by one**, over the ends of
    months and years. -/
theorem dayNumber_tomorrow {date : Date} (h : date.Valid) :
    date.tomorrow.Valid ∧ date.tomorrow.dayNumber = date.dayNumber + 1 := by
  obtain ⟨hlow, hhigh, hone, hday⟩ := h
  unfold tomorrow
  split_ifs with hmore hmonth
  · refine ⟨⟨hlow, hhigh, Nat.succ_pos _, hmore⟩, ?_⟩
    simp only [dayNumber]
    omega
  · refine ⟨valid_first _ ⟨Nat.succ_pos _, hmonth⟩, ?_⟩
    simp only [dayNumber, daysBeforeMonth_succ ⟨hlow, hhigh⟩]
    omega
  · have hlast : date.month = 12 := by omega
    have hyear : daysBeforeMonth (isLeap date.year) 12 +
        (monthLengths (isLeap date.year)).getD 11 0 = (monthLengths (isLeap date.year)).sum := by
      cases isLeap date.year <;> rfl
    have hfirst (leap : Bool) : daysBeforeMonth leap 1 = 0 := rfl
    refine ⟨valid_first _ (by decide), ?_⟩
    simp only [hlast, Nat.reduceSub] at hmore hday
    simp only [dayNumber, hlast, hfirst, daysBefore_succ_eq_add_sum]
    omega

/-- **The dates of successive days follow each other.** -/
theorem ofDayNumber_succ (number : Int) :
    ofDayNumber (number + 1) = (ofDayNumber number).tomorrow := by
  obtain ⟨hvalid, hnumber⟩ := dayNumber_tomorrow (valid_ofDayNumber number)
  refine eq_of_dayNumber_eq (valid_ofDayNumber _) hvalid ?_
  rw [hnumber, dayNumber_ofDayNumber, dayNumber_ofDayNumber]

end Date

end DeviceMail
