/-
  DeviceMail — times in the hub's form sort by time.

  Texts are compared character by character.

  * `compare_numeral`: digits of one width are in the order of their numbers;
  * `compare_of_writtenAs`: texts of the years 0 to 9999 are in the order of what
    they say, from the year to the ticks (`Timestamp.order`);
  * `order_timestamp`: that is the order of what is shown of the instants
    (`Instant.shownOrder`), and of regular instants the order of second, leap second
    and tick (`Instant.order`);
  * `hubText_sorts`: so the texts of instants are in the order of the instants.
-/
import DeviceMail.Proofs.Timestamps
import Mathlib.Data.String.Basic

namespace DeviceMail

open Decimal (Numeral)

/-! ## Digits -/

theorem compare_append {xs ys : List Char} (h : xs.length = ys.length) (s t : List Char) :
    compare (xs ++ s) (ys ++ t) = (compare xs ys).then (compare s t) := by
  induction xs generalizing ys with
  | nil =>
    rw [List.length_nil, eq_comm, List.length_eq_zero_iff] at h
    rw [h, List.compare_nil_nil]
    rfl
  | cons x xs ih =>
    rcases ys with _ | ⟨y, ys⟩
    · nomatch h
    · rw [List.cons_append, List.cons_append, List.compare_cons_cons, List.compare_cons_cons,
        ih (Nat.succ.inj h), Ordering.then_assoc]

theorem compare_digit {x y : Char} (hx : x.isDigit) (hy : y.isDigit) (m n : Nat) :
    compare (10 * m + (x.toNat - '0'.toNat)) (10 * n + (y.toNat - '0'.toNat)) =
      (compare m n).then (compare x y) := by
  rw [Char.isDigit_iff_toNat] at hx hy
  have hbounds : '0'.toNat = 48 ∧ '9'.toNat = 57 := ⟨rfl, rfl⟩
  have hchar (x y : Char) : x < y ↔ x.toNat < y.toNat := Iff.rfl
  refine compare_eq_then (by omega) (by omega) fun hmn => compare_congr ?_ ?_
  · rw [hchar]
    omega
  · rw [hchar]
    omega

/-- Digits after numbers `m` and `n` make numbers in the order of `m` and `n`,
    and of the digits if these are equal. -/
theorem compare_ofDigitChars {xs ys : List Char} (h : xs.length = ys.length)
    (hx : ∀ c ∈ xs, c.isDigit) (hy : ∀ c ∈ ys, c.isDigit) (m n : Nat) :
    compare (Nat.ofDigitChars 10 xs m) (Nat.ofDigitChars 10 ys n) =
      (compare m n).then (compare xs ys) := by
  induction xs generalizing ys m n with
  | nil =>
    rw [List.length_nil, eq_comm, List.length_eq_zero_iff] at h
    rw [h, List.compare_nil_nil, Ordering.then_eq]
    rfl
  | cons x xs ih =>
    rcases ys with _ | ⟨y, ys⟩
    · nomatch h
    · obtain ⟨hx, hxs⟩ := List.forall_mem_cons.1 hx
      obtain ⟨hy, hys⟩ := List.forall_mem_cons.1 hy
      rw [Nat.ofDigitChars_cons, Nat.ofDigitChars_cons, ih (Nat.succ.inj h) hxs hys,
        compare_digit hx hy, Ordering.then_assoc, List.compare_cons_cons]

theorem compare_numeral {width m n : Nat} {xs ys : List Char} (hm : Numeral width m xs)
    (hn : Numeral width n ys) : compare xs ys = compare m n := by
  have h := compare_ofDigitChars (hm.length.trans hn.length.symm) hm.isDigit hn.isDigit 0 0
  rw [hm.value, hn.value, compare_eq_iff_eq.2 rfl, Ordering.eq_then] at h
  exact h.symm

/-- A number of one width, and then the rest of the text. -/
theorem compare_numeral_append {width m n : Nat} {xs ys : List Char} (hm : Numeral width m xs)
    (hn : Numeral width n ys) (s t : List Char) :
    compare (xs ++ s) (ys ++ t) = (compare m n).then (compare s t) := by
  rw [compare_append (hm.length.trans hn.length.symm), compare_numeral hm hn]

/-! ## Texts -/

/-- A year that is written without a sign. -/
def Date.PlainYear (date : Date) : Prop := 0 ≤ date.year ∧ date.year ≤ 9999

theorem WrittenYear.numeral {date : Date} {text : List Char} (h : WrittenYear date.year text)
    (hplain : date.PlainYear) : ∃ n : Nat, date.year = n ∧ Numeral 4 n text := by
  obtain ⟨hlow, hhigh⟩ := hplain
  generalize date.year = year at h hlow hhigh
  cases h with
  | plain _ hd => exact ⟨_, rfl, hd⟩
  | late hn _ => omega
  | early hn _ => omega

namespace Timestamp

/-- The order of times, from the year down to the ticks. -/
def order (a b : Timestamp) : Ordering :=
  (compare a.date.year b.date.year).then <| (compare a.date.month b.date.month).then <|
    (compare a.date.day b.date.day).then <| (compare a.hour b.hour).then <|
    (compare a.minute b.minute).then <| (compare a.second b.second).then <|
    compare a.ticks b.ticks

theorem WrittenAs.length_eq {time : Timestamp} {text : List Char} (h : time.WrittenAs text)
    (hplain : time.date.PlainYear) : text.length = 28 := by
  obtain ⟨year, month, day, hour, minute, second, ticks, rfl, hyear, hmonth, hday, hhour, hminute,
    hsecond, hticks⟩ := h
  obtain ⟨n, -, hyear⟩ := hyear.numeral hplain
  simp only [List.length_append, List.length_cons, List.length_nil, hyear.length, hmonth.length,
    hday.length, hhour.length, hminute.length, hsecond.length, hticks.length]

/-- **Texts are in the order of the times that they say.** -/
theorem compare_of_writtenAs {a b : Timestamp} {text text' : List Char} (ha : a.WrittenAs text)
    (hb : b.WrittenAs text') (hplain : a.date.PlainYear) (hplain' : b.date.PlainYear) :
    compare text text' = a.order b := by
  obtain ⟨year, month, day, hour, minute, second, ticks, rfl, hyear, hmonth, hday, hhour, hminute,
    hsecond, hticks⟩ := ha
  obtain ⟨year', month', day', hour', minute', second', ticks', rfl, hyear', hmonth', hday', hhour',
    hminute', hsecond', hticks'⟩ := hb
  obtain ⟨m, hm, hyear⟩ := hyear.numeral hplain
  obtain ⟨n, hn, hyear'⟩ := hyear'.numeral hplain'
  have hcast : compare m n = compare a.date.year b.date.year := by
    rw [hm, hn]
    exact compare_congr (by omega) (by omega)
  -- a sign between two numbers is the same on both sides
  have hsign (c : Char) (s t : List Char) : compare (c :: s) (c :: t) = compare s t := by
    rw [List.compare_cons_cons, compare_eq_iff_eq.2 rfl, Ordering.eq_then]
  simp only [List.append_assoc, List.cons_append]
  rw [compare_numeral_append hyear hyear', hsign, compare_numeral_append hmonth hmonth', hsign,
    compare_numeral_append hday hday', hsign, compare_numeral_append hhour hhour', hsign,
    compare_numeral_append hminute hminute', hsign, compare_numeral_append hsecond hsecond', hsign,
    compare_numeral_append hticks hticks', hsign, List.compare_nil_nil, Ordering.then_eq, hcast,
    order]

end Timestamp

/-! ## Instants -/

namespace Instant

/-- The order of instants by second, then a leap second after the second that it
    follows, then by ticks. -/
def order (a b : Instant) : Ordering :=
  (compare a.seconds b.seconds).then <| (compare a.isLeapSecond b.isLeapSecond).then <|
    compare a.ticks b.ticks

theorem compare_seconds (a b : Instant) :
    compare a.seconds b.seconds =
      (compare a.date.dayNumber b.date.dayNumber).then (compare a.secondOfDay b.secondOfDay) := by
  rw [dayNumber_date, dayNumber_date]
  unfold secondOfDay
  exact compare_eq_then (by omega) (by omega) fun h => compare_congr (by omega) (by omega)

theorem compare_secondOfDay (a b : Instant) :
    compare a.secondOfDay b.secondOfDay =
      (compare a.hour b.hour).then ((compare a.minute b.minute).then
        (compare (a.secondOfDay % 60) (b.secondOfDay % 60))) := by
  unfold hour minute
  refine compare_eq_then (by omega) (by omega) fun h => ?_
  refine compare_eq_then (by omega) (by omega) fun h' => ?_
  exact compare_congr (by omega) (by omega)

/-- A leap second is written as a second of its own, after the others. -/
theorem compare_second {a b : Instant} (hregular : a.Regular) (hregular' : b.Regular) :
    compare a.second b.second =
      (compare (a.secondOfDay % 60) (b.secondOfDay % 60)).then
        (compare a.isLeapSecond b.isLeapSecond) := by
  have hleap : compare a.isLeapSecond b.isLeapSecond =
      compare (if a.isLeapSecond then 1 else 0) (if b.isLeapSecond then 1 else 0) := by
    cases a.isLeapSecond <;> cases b.isLeapSecond <;> rfl
  have hlast {t : Instant} (h : t.Regular) : (if t.isLeapSecond then 1 else 0) = 0 ∨
      (if t.isLeapSecond then 1 else 0) = 1 ∧ t.secondOfDay % 60 = 59 := by
    split_ifs with hleap
    · exact Or.inr ⟨rfl, secondOfDay_of_leap h hleap⟩
    · exact Or.inl rfl
  have ha := hlast hregular
  have hb := hlast hregular'
  rw [second, second, hleap]
  generalize (if a.isLeapSecond then 1 else 0) = m at ha ⊢
  generalize (if b.isLeapSecond then 1 else 0) = n at hb ⊢
  refine compare_eq_then (by omega) (by omega) fun h => compare_congr (by omega) (by omega)

/-- The order of instants by what is shown of them: by the regular instants in
    their place, and then by ticks. -/
def shownOrder (a b : Instant) : Ordering :=
  (compare a.shown.seconds b.shown.seconds).then <|
    (compare a.shown.isLeapSecond b.shown.isLeapSecond).then <| compare a.ticks b.ticks

theorem shownOrder_of_regular {a b : Instant} (hregular : a.Regular) (hregular' : b.Regular) :
    a.shownOrder b = a.order b := by
  rw [shownOrder, shown_of_regular hregular, shown_of_regular hregular', order]

/-- **What is written of instants is in the order of what is shown of them.** -/
theorem order_timestamp (a b : Instant) :
    a.timestamp.order b.timestamp = a.shownOrder b := by
  have hshown (t : Instant) : t.timestamp =
      ⟨t.shown.date, t.shown.hour, t.shown.minute, t.shown.second, t.ticks⟩ := by
    obtain ⟨hdate, hhour, hminute, hsecond⟩ := t.clock_shown
    rw [hdate, hhour, hminute, hsecond, timestamp]
  rw [hshown a, hshown b, shownOrder, compare_seconds,
    Date.compare_dayNumber a.shown.valid_date b.shown.valid_date, compare_secondOfDay]
  simp only [Ordering.then_assoc]
  rw [← Ordering.then_assoc (compare (a.shown.secondOfDay % 60) _),
    ← compare_second a.regular_shown b.regular_shown]
  rfl

/-- An instant that is not earlier does not come before the other. -/
theorem order_ne_lt {a b : Instant}
    (h : a.seconds < b.seconds ∨ a.seconds = b.seconds ∧ a.nanos ≤ b.nanos) : b.order a ≠ .lt := by
  rw [order]
  rcases h with hs | ⟨hs, hn⟩
  · rw [compare_gt_iff_gt.2 hs, Ordering.gt_then]
    nofun
  · have hleap : compare b.isLeapSecond a.isLeapSecond ≠ .lt := by
      rw [Ne, compare_lt_iff_lt, not_lt]
      exact fun hlate => decide_eq_true ((of_decide_eq_true hlate).trans hn)
    have hticks : compare b.ticks a.ticks ≠ .lt := by
      rw [Ne, compare_lt_iff_lt, not_lt, ticks, ticks]
      omega
    rw [compare_eq_iff_eq.2 hs.symm, Ordering.eq_then, Ne, Ordering.then_eq_lt]
    rintro (hlt | ⟨-, hlt⟩)
    · exact hleap hlt
    · exact hticks hlt

end Instant

/-! ## Sorting -/

theorem compare_eq_lt_iff (xs ys : List Char) : compare xs ys = .lt ↔ xs < ys := by
  induction xs generalizing ys with
  | nil => cases ys <;> simp [List.compare_nil_cons]
  | cons x xs ih =>
    cases ys with
    | nil => simp [List.compare_cons_nil]
    | cons y ys =>
      rw [List.compare_cons_cons, Ordering.then_eq_lt, List.cons_lt_cons_iff, ih,
        compare_lt_iff_lt, compare_eq_iff_eq]

/-- **Times in the hub's form sort by time.**  From the year 0 to the year 9999,
    all texts have 28 characters.  Character by character, the texts of instants
    that are represented by a second and nanoseconds are in the order of second,
    leap second and tick; so an instant that is not later has a text that is not
    greater.  All instants, also those in a leap second inside a minute, are in the
    order of what is shown of them. -/
theorem hubText_sorts {a b : Instant} (ha : 0 ≤ a.date.year ∧ a.date.year ≤ 9999)
    (hb : 0 ≤ b.date.year ∧ b.date.year ≤ 9999) :
    a.hubText.length = 28 ∧ b.hubText.length = 28 ∧
      (∀ seconds nanos seconds' nanos', Instant.ofSeconds? seconds nanos = some a →
        Instant.ofSeconds? seconds' nanos' = some b →
        compare a.hubText.toList b.hubText.toList =
          ((compare seconds seconds').then <|
            (compare (decide (1000000000 ≤ nanos)) (decide (1000000000 ≤ nanos'))).then <|
              compare (min (nanos / 100) 9999999) (min (nanos' / 100) 9999999)) ∧
        ((seconds < seconds' ∨ seconds = seconds' ∧ nanos ≤ nanos') → a.hubText ≤ b.hubText)) ∧
      compare a.hubText.toList b.hubText.toList =
        ((compare a.shown.seconds b.shown.seconds).then <|
          (compare a.shown.isLeapSecond b.shown.isLeapSecond).then <|
            compare (min (a.nanos / 100) 9999999) (min (b.nanos / 100) 9999999)) := by
  have hcompare {a b : Instant} (ha : a.date.PlainYear) (hb : b.date.PlainYear) :
      compare a.hubText.toList b.hubText.toList = a.shownOrder b := by
    rw [Timestamp.compare_of_writtenAs a.writtenAs_hubText b.writtenAs_hubText ha hb,
      Instant.order_timestamp]
  refine ⟨a.writtenAs_hubText.length_eq ha, b.writtenAs_hubText.length_eq hb, ?_, hcompare ha hb⟩
  intro seconds nanos seconds' nanos' hgiven hgiven'
  obtain ⟨rfl, rfl, hregular⟩ := Instant.ofSeconds?_eq_some_iff.1 hgiven
  obtain ⟨rfl, rfl, hregular'⟩ := Instant.ofSeconds?_eq_some_iff.1 hgiven'
  refine ⟨(hcompare ha hb).trans (Instant.shownOrder_of_regular hregular hregular'),
    fun h => not_lt.1 fun hlt => ?_⟩
  rw [String.lt_iff_toList_lt, ← compare_eq_lt_iff, hcompare hb ha,
    Instant.shownOrder_of_regular hregular' hregular] at hlt
  exact Instant.order_ne_lt h hlt

/-- A leap second at the end of a year, and the second that follows it.  A leap
    second inside a minute is written later than the second that follows. -/
theorem hubText_sorts_over_leap_second :
    let a : Instant := { seconds := 1483228799, nanos := 1500000000 }
    let b : Instant := { seconds := 1483228800, nanos := 0 }
    let c : Instant := { seconds := 0, nanos := 1500000000 }
    let d : Instant := { seconds := 1, nanos := 0 }
    ((0 ≤ a.date.year ∧ a.date.year ≤ 9999) ∧ (0 ≤ b.date.year ∧ b.date.year ≤ 9999) ∧
      Instant.ofSeconds? 1483228799 1500000000 = some a ∧
      Instant.ofSeconds? 1483228800 0 = some b ∧
      a.hubText.length = 28 ∧ b.hubText.length = 28 ∧
      compare a.hubText.toList b.hubText.toList = .lt ∧ a.hubText ≤ b.hubText) ∧
    c.seconds < d.seconds ∧ compare c.hubText.toList d.hubText.toList = .gt := by
  intro a b c d
  have ha : 0 ≤ a.date.year ∧ a.date.year ≤ 9999 := by decide +kernel
  have hb : 0 ≤ b.date.year ∧ b.date.year ≤ 9999 := by decide +kernel
  have hc : 0 ≤ c.date.year ∧ c.date.year ≤ 9999 := by decide +kernel
  have hd : 0 ≤ d.date.year ∧ d.date.year ≤ 9999 := by decide +kernel
  have hfirst : Instant.ofSeconds? 1483228799 1500000000 = some a := by decide
  have hsecond : Instant.ofSeconds? 1483228800 0 = some b := by decide
  obtain ⟨hlength, hlength', hgiven, -⟩ := hubText_sorts ha hb
  obtain ⟨hcompare, hle⟩ := hgiven _ _ _ _ hfirst hsecond
  obtain ⟨-, -, -, hinside⟩ := hubText_sorts hc hd
  exact ⟨⟨ha, hb, hfirst, hsecond, hlength, hlength', hcompare.trans (by decide),
    hle (Or.inl (by decide))⟩, by decide, hinside.trans (by decide)⟩

end DeviceMail
