/-
  DeviceMail — what the hub's form of a time says.

  * `Timestamp.WrittenAs` says that a text is a date and a time of day in the
    hub's form, and `WrittenAs.unique`: it is in at most one way;
  * `Instant.timestamp` is what is written of an instant
    (`writtenAs_hubText`), and `minutes_timestamp` leads back to the instant;
  * `Instant.Regular`: the instant lies in no leap second but one at the end of a
    minute, as all instants do that are represented by a second and nanoseconds
    (`ofSeconds?_eq_some_iff`); any other has date and time of day of the instant
    `Instant.shown`, a second later (`clock_shown`);
  * `hubText_exact`: the text names the instant to the tick, over the whole range
    of years and in leap seconds too.
-/
import DeviceMail.Proofs.Calendar
import DeviceMail.Proofs.Numerals
import DeviceMail.Time.Instant

namespace DeviceMail

open Decimal (Numeral)

/-! ## Texts in the hub's form -/

/-- A date and a time of day, in ticks of 100 nanoseconds. -/
structure Timestamp where
  date : Date
  hour : Nat
  minute : Nat
  second : Nat
  ticks : Nat

/-- At least four decimal digits that denote `n`, and more only if `n` needs
    them. -/
structure YearDigits (n : Nat) (digits : List Char) : Prop where
  length : 4 ≤ digits.length
  first : 4 < digits.length → digits.head? ≠ some '0'
  numeral : Numeral digits.length n digits

/-- A year in the hub's form: four digits from 0 to 9999, and a sign before the
    digits of all other years. -/
inductive WrittenYear : Int → List Char → Prop
  | plain {n digits} : n ≤ 9999 → Numeral 4 n digits → WrittenYear n digits
  | late {n : Nat} {digits} : 9999 < n → YearDigits n digits → WrittenYear n ('+' :: digits)
  | early {n : Nat} {digits} : 0 < n → YearDigits n digits → WrittenYear (-n) ('-' :: digits)

namespace Timestamp

/-- A date, the letter T, a time of day, a point and the ticks, and the letter Z.
    All numbers but the year have a fixed number of digits. -/
def WrittenAs (time : Timestamp) (text : List Char) : Prop :=
  ∃ year month day hour minute second ticks : List Char,
    text = year ++ '-' :: month ++ '-' :: day ++ 'T' :: hour ++ ':' :: minute ++ ':' :: second ++
      '.' :: ticks ++ ['Z'] ∧
    WrittenYear time.date.year year ∧ Numeral 2 time.date.month month ∧
    Numeral 2 time.date.day day ∧ Numeral 2 time.hour hour ∧ Numeral 2 time.minute minute ∧
    Numeral 2 time.second second ∧ Numeral 7 time.ticks ticks

/-- The whole minutes since the beginning of 1970. -/
def minutes (time : Timestamp) : Int :=
  (time.date.dayNumber * 24 + time.hour) * 60 + time.minute

/-- The minute exists, and it lies in one of the years of instants. -/
structure InCalendar (time : Timestamp) : Prop where
  date : time.date.Valid
  year : -262143 ≤ time.date.year ∧ time.date.year ≤ 262142
  hour : time.hour < 24
  minute : time.minute < 60

end Timestamp

/-! ## A text says one time only -/

/-- The year that a text denotes. -/
def readYear : List Char → Int
  | '+' :: digits => Nat.ofDigitChars 10 digits 0
  | '-' :: digits => -Nat.ofDigitChars 10 digits 0
  | digits => Nat.ofDigitChars 10 digits 0

theorem WrittenYear.readYear_eq {year : Int} {text : List Char} (h : WrittenYear year text) :
    readYear text = year := by
  cases h with
  | plain _ hd =>
    -- neither sign is a digit
    unfold readYear
    split
    · exact absurd (hd.isDigit _ List.mem_cons_self) (by decide)
    · exact absurd (hd.isDigit _ List.mem_cons_self) (by decide)
    · rw [hd.value]
  | late _ hd => rw [readYear, hd.numeral.value]
  | early _ hd => rw [readYear, hd.numeral.value]

theorem Decimal.Numeral.append_inj {width m n : Nat} {xs ys s t : List Char}
    (hm : Numeral width m xs) (hn : Numeral width n ys) (h : xs ++ s = ys ++ t) :
    m = n ∧ s = t := by
  obtain ⟨rfl, rfl⟩ := List.append_inj h (hm.length.trans hn.length.symm)
  exact ⟨hm.value.symm.trans hn.value, rfl⟩

/-- **A text says one time only.** -/
theorem Timestamp.WrittenAs.unique {time time' : Timestamp} {text : List Char}
    (h : time.WrittenAs text) (h' : time'.WrittenAs text) : time = time' := by
  obtain ⟨year, month, day, hour, minute, second, ticks, rfl, hyear, hmonth, hday, hhour, hminute,
    hsecond, hticks⟩ := h
  obtain ⟨year', month', day', hour', minute', second', ticks', heq, hyear', hmonth', hday', hhour',
    hminute', hsecond', hticks'⟩ := h'
  simp only [List.append_assoc, List.cons_append] at heq
  -- only the year may differ in length, and it comes first
  obtain ⟨rfl, htail⟩ := List.append_inj' heq <| by
    simp only [List.length_append, List.length_cons, hmonth.length, hday.length, hhour.length,
      hminute.length, hsecond.length, hticks.length, hmonth'.length, hday'.length, hhour'.length,
      hminute'.length, hsecond'.length, hticks'.length]
  obtain ⟨emonth, htail⟩ := hmonth.append_inj hmonth' (List.cons.inj htail).2
  obtain ⟨eday, htail⟩ := hday.append_inj hday' (List.cons.inj htail).2
  obtain ⟨ehour, htail⟩ := hhour.append_inj hhour' (List.cons.inj htail).2
  obtain ⟨eminute, htail⟩ := hminute.append_inj hminute' (List.cons.inj htail).2
  obtain ⟨esecond, htail⟩ := hsecond.append_inj hsecond' (List.cons.inj htail).2
  obtain ⟨eticks, -⟩ := hticks.append_inj hticks' (List.cons.inj htail).2
  have eyear : time.date.year = time'.date.year := hyear.readYear_eq.symm.trans hyear'.readYear_eq
  rcases time with ⟨⟨_, _, _⟩, _, _, _, _⟩
  rcases time' with ⟨⟨_, _, _⟩, _, _, _, _⟩
  simp only at eyear emonth eday ehour eminute esecond eticks
  rw [eyear, emonth, eday, ehour, eminute, esecond, eticks]

/-! ## What is written of an instant -/

theorem yearDigits_padded (n : Nat) : YearDigits n (Decimal.padded 4 n) := by
  by_cases h : n < 10 ^ 4
  · have hd := Decimal.numeral_padded (by decide) h
    exact ⟨hd.length.ge, fun hlt => absurd hd.length hlt.ne', hd.length.symm ▸ hd⟩
  · rw [Decimal.padded_eq_digits (by decide) (not_lt.1 h)]
    have hlen : ¬ (Decimal.digits n).length ≤ 4 := fun hle =>
      h ((Nat.length_toDigits_le_iff (by decide) (by decide)).1 hle)
    exact ⟨by omega, fun _ => Decimal.head?_digits_ne_zero (by omega), Decimal.numeral_digits n⟩

theorem writtenYear_yearText (year : Int) : WrittenYear year (Date.yearText year) := by
  cases year with
  | ofNat n =>
    rw [Date.yearText]
    split_ifs with h
    · exact .plain h (Decimal.numeral_padded (by decide) (by omega))
    · exact .late (not_le.1 h) (yearDigits_padded n)
  | negSucc n => exact .early n.succ_pos (yearDigits_padded (n + 1))

namespace Instant

/-- What is written of an instant. -/
def timestamp (t : Instant) : Timestamp := ⟨t.date, t.hour, t.minute, t.second, t.ticks⟩

/-- The seconds of instants are those of the years -262143 to 262142. -/
theorem inRange_iff (seconds : Int) :
    (-8334601228800 ≤ seconds ∧ seconds ≤ 8210266876799) ↔
      -262143 ≤ (Date.ofDayNumber (seconds / 86400)).year ∧
        (Date.ofDayNumber (seconds / 86400)).year ≤ 262142 := by
  have hvalid := Date.valid_ofDayNumber (seconds / 86400)
  have hfirst : Date.firstDay + Date.daysBefore (-262143) = -96465292 := by decide
  have hlast : Date.firstDay + Date.daysBefore 262143 = 95026237 := by decide
  have hlow := Date.dayNumber_lt_iff hvalid (-262143)
  have hhigh := Date.dayNumber_lt_iff hvalid 262143
  rw [Date.dayNumber_ofDayNumber, hfirst] at hlow
  rw [Date.dayNumber_ofDayNumber, hlast] at hhigh
  omega

section
variable (t : Instant)

theorem valid_date : t.date.Valid := Date.valid_ofDayNumber _

theorem dayNumber_date : t.date.dayNumber = t.seconds / 86400 := Date.dayNumber_ofDayNumber _

theorem secondOfDay_lt : t.secondOfDay < 86400 := by
  unfold secondOfDay
  omega

theorem hour_lt : t.hour < 24 := by
  have := t.secondOfDay_lt
  unfold hour
  omega

theorem minute_lt : t.minute < 60 := Nat.mod_lt _ (by decide)

theorem second_le : t.second ≤ 60 := by
  unfold second
  split_ifs <;> omega

theorem ticks_le : t.ticks ≤ 9999999 := Nat.min_le_right _ _

/-- **The minutes of what is written and the second within the minute lead back
    to the instant.** -/
theorem minutes_timestamp : 60 * t.timestamp.minutes + (t.secondOfDay % 60 : Nat) = t.seconds := by
  have hday : t.timestamp.date.dayNumber = t.seconds / 86400 := t.dayNumber_date
  rw [Timestamp.minutes, hday]
  simp only [timestamp, hour, minute, secondOfDay]
  omega

/-- Date and time of day, and any ticks after them, are written in the hub's form. -/
theorem writtenAs_clockText {ticks : Nat} (h : ticks ≤ 9999999) :
    Timestamp.WrittenAs ⟨t.date, t.hour, t.minute, t.second, ticks⟩
      (t.clockText ++ '.' :: Decimal.padded 7 ticks ++ ['Z']) := by
  have htwo {n : Nat} (h : n < 100) : Numeral 2 n (Decimal.padded 2 n) :=
    Decimal.numeral_padded (by decide) h
  have hmonth := htwo (t.valid_date.2.1.trans_lt (by decide))
  have hday := htwo ((Date.day_le t.valid_date).trans_lt (by decide))
  have hhour := htwo (t.hour_lt.trans (by decide))
  have hminute := htwo (t.minute_lt.trans (by decide))
  have hsecond := htwo (t.second_le.trans_lt (by decide))
  have hticks : Numeral 7 ticks (Decimal.padded 7 ticks) :=
    Decimal.numeral_padded (by decide) (Nat.lt_succ_of_le h)
  refine ⟨_, _, _, _, _, _, _, ?_, writtenYear_yearText t.date.year, hmonth, hday, hhour, hminute,
    hsecond, hticks⟩
  rw [clockText, Date.text]

/-- **What is written of an instant is its date, its time of day and its ticks.** -/
theorem writtenAs_hubText : t.timestamp.WrittenAs t.hubText.toList := by
  rw [hubText, String.toList_ofList]
  exact t.writtenAs_clockText t.ticks_le

end

/-! ## Leap seconds -/

/-- The instant lies in no leap second, or in one at the end of a minute. -/
def Regular (t : Instant) : Prop := t.isLeapSecond → t.seconds % 60 = 59

instance (t : Instant) : Decidable t.Regular :=
  inferInstanceAs (Decidable (t.isLeapSecond → t.seconds % 60 = 59))

/-- **The instants represented by a second and nanoseconds are the regular ones.** -/
theorem ofSeconds?_eq_some_iff {seconds : Int} {nanos : Nat} {t : Instant} :
    ofSeconds? seconds nanos = some t ↔ t.seconds = seconds ∧ t.nanos = nanos ∧ t.Regular := by
  have hleap (t : Instant) : t.isLeapSecond ↔ nanosPerSecond ≤ t.nanos := decide_eq_true_iff
  rw [ofSeconds?, Regular, hleap]
  constructor
  · intro h
    split_ifs at h with hrange hregular
    obtain rfl := Option.some.inj h
    exact ⟨rfl, rfl, fun hlate => by simp only at hlate ⊢; omega⟩
  · rintro ⟨rfl, rfl, hregular⟩
    have hfits := t.fits
    rw [dif_pos t.inRange, dif_pos (by omega)]

theorem isSome_ofSeconds? {seconds : Int} {nanos : Nat} :
    (ofSeconds? seconds nanos).isSome ↔
      (-8334601228800 ≤ seconds ∧ seconds ≤ 8210266876799) ∧
        (nanos < nanosPerSecond ∨ (nanos < 2 * nanosPerSecond ∧ seconds % 60 = 59)) := by
  rw [ofSeconds?]
  split_ifs with hrange hregular
  · exact iff_of_true rfl ⟨hrange, hregular⟩
  · exact iff_of_false nofun fun h => hregular h.2
  · exact iff_of_false nofun fun h => hrange h.1

/-- The regular instant with the same date and time of day: in a leap second
    inside a minute it is a second later. -/
def shown (t : Instant) : Instant :=
  if regular : t.Regular then t
  else
    { seconds := t.seconds + 1
      nanos := t.nanos - nanosPerSecond
      inRange := by
        have hrange := t.inRange
        unfold Regular at regular
        omega
      fits := by
        have hfits := t.fits
        omega }

section
variable {t : Instant}

theorem shown_of_regular (h : t.Regular) : t.shown = t := dif_pos h

theorem nanos_of_not_regular (h : ¬ t.Regular) :
    nanosPerSecond ≤ t.nanos ∧ t.nanos < 2 * nanosPerSecond := by
  obtain ⟨hleap, -⟩ := Classical.not_imp.1 h
  exact ⟨of_decide_eq_true hleap, t.fits⟩

theorem seconds_shown (h : ¬ t.Regular) : t.shown.seconds = t.seconds + 1 := by
  rw [shown, dif_neg h]

theorem nanos_shown (h : ¬ t.Regular) : t.shown.nanos = t.nanos - nanosPerSecond := by
  rw [shown, dif_neg h]

theorem isLeapSecond_shown (h : ¬ t.Regular) : t.shown.isLeapSecond = false := by
  have hnanos := nanos_of_not_regular h
  rw [isLeapSecond, nanos_shown h, decide_eq_false_iff_not]
  omega

theorem regular_shown (t : Instant) : t.shown.Regular := by
  by_cases h : t.Regular
  · rw [shown_of_regular h]
    exact h
  · rw [Regular, isLeapSecond_shown h]
    nofun

/-- In a leap second at the end of a minute, second 59 is the last that is not
    one. -/
theorem secondOfDay_of_leap (h : t.Regular) (hleap : t.isLeapSecond) :
    t.secondOfDay % 60 = 59 := by
  have hlast := h hleap
  unfold secondOfDay
  omega

/-- The seconds of a regular instant reach 60 in a leap second, and only there. -/
theorem second_eq (h : t.Regular) :
    t.second = if t.isLeapSecond then 60 else t.secondOfDay % 60 := by
  rw [second]
  split_ifs with hleap
  · rw [secondOfDay_of_leap h hleap]
  · rfl

/-- **An instant is written with date and time of day of the regular one.** -/
theorem clock_shown (t : Instant) :
    t.shown.date = t.date ∧ t.shown.hour = t.hour ∧ t.shown.minute = t.minute ∧
      t.shown.second = t.second := by
  by_cases h : t.Regular
  · rw [shown_of_regular h]
    exact ⟨rfl, rfl, rfl, rfl⟩
  · obtain ⟨hleap, hinside⟩ := Classical.not_imp.1 h
    have hday : (t.seconds + 1) / 86400 = t.seconds / 86400 := by omega
    have hsecond : t.shown.secondOfDay = t.secondOfDay + 1 := by
      unfold secondOfDay
      rw [seconds_shown h]
      omega
    have hbefore : t.secondOfDay % 60 ≠ 59 := by
      unfold secondOfDay
      omega
    unfold date hour minute second
    rw [hsecond, seconds_shown h, hday, isLeapSecond_shown h, hleap]
    refine ⟨rfl, by omega, by omega, ?_⟩
    simp only [Bool.false_eq_true, if_false, if_true]
    omega

end

/-! ## Exactness -/

theorem inCalendar_timestamp (t : Instant) : t.timestamp.InCalendar where
  date := t.valid_date
  year := (inRange_iff t.seconds).1 t.inRange
  hour := t.hour_lt
  minute := t.minute_lt

/-- What is written of a regular instant is that instant. -/
theorem timestamp_of_regular {t : Instant} (h : t.Regular) :
    if t.nanos < nanosPerSecond then
      t.second < 60 ∧ 60 * t.timestamp.minutes + t.second = t.seconds ∧ t.ticks = t.nanos / 100
    else t.second = 60 ∧ t.timestamp.minutes = t.seconds / 60 ∧ t.ticks = 9999999 := by
  have hminutes := t.minutes_timestamp
  have hnanos : nanosPerSecond = 1000000000 := rfl
  rw [second_eq h, ticks]
  split_ifs with hearly hleap hleap
  · exact absurd hearly (not_lt.2 (of_decide_eq_true hleap))
  · exact ⟨Nat.mod_lt _ (by decide), hminutes, by omega⟩
  · have hlast := secondOfDay_of_leap h hleap
    exact ⟨rfl, by omega, by omega⟩
  · exact absurd (decide_eq_true (not_lt.1 hearly)) hleap

/-- What is written of any other instant is the last tick of the next second. -/
theorem timestamp_of_not_regular {t : Instant} (h : ¬ t.Regular) :
    t.second < 60 ∧ 60 * t.timestamp.minutes + t.second = t.seconds + 1 ∧ t.ticks = 9999999 := by
  obtain ⟨hlate, hlt⟩ := nanos_of_not_regular h
  have hnanos : nanosPerSecond = 1000000000 := rfl
  have hshown := timestamp_of_regular t.regular_shown
  rw [nanos_shown h, if_pos (by omega), seconds_shown h] at hshown
  obtain ⟨hdate, hhour, hminute, hsecond⟩ := t.clock_shown
  have hminutes : t.shown.timestamp.minutes = t.timestamp.minutes := by
    simp only [Timestamp.minutes, timestamp, hdate, hhour, hminute]
  rw [hminutes, hsecond] at hshown
  exact ⟨hshown.1, hshown.2.1, by rw [ticks]; omega⟩

end Instant

/-- **The hub's form is exact to the tick.**  A second of the years -262143 to
    262142 and nanoseconds represent an instant, and so they do in a leap second at
    the end of a minute.  The text of that instant says one time only, in the hub's
    form, and the date of that exists.  Before a leap second, date and time of day
    lead back to the second, and the ticks are those of the nanoseconds.  In a leap
    second, the text shows second 60 of the minute and the last tick.  An instant
    can also lie in a leap second inside a minute, where no second and nanoseconds
    represent it: its text says the last tick of the second that follows. -/
theorem hubText_exact :
    (∀ (seconds : Int) (nanos : Nat),
      ((Instant.ofSeconds? seconds nanos).isSome ↔
        (-262143 ≤ (Date.ofDayNumber (seconds / 86400)).year ∧
          (Date.ofDayNumber (seconds / 86400)).year ≤ 262142) ∧
        (nanos < 1000000000 ∨ (nanos < 2000000000 ∧ seconds % 60 = 59))) ∧
      ∀ t, Instant.ofSeconds? seconds nanos = some t →
        (∃ time : Timestamp, time.WrittenAs t.hubText.toList) ∧
        ∀ time : Timestamp, time.WrittenAs t.hubText.toList →
          time.InCalendar ∧
          if nanos < 1000000000 then
            time.second < 60 ∧ 60 * time.minutes + time.second = seconds ∧
              time.ticks = nanos / 100
          else time.second = 60 ∧ time.minutes = seconds / 60 ∧ time.ticks = 9999999) ∧
    ∀ t : Instant, ¬ t.Regular →
      (∃ time : Timestamp, time.WrittenAs t.hubText.toList) ∧
      ∀ time : Timestamp, time.WrittenAs t.hubText.toList →
        time.InCalendar ∧ time.second < 60 ∧ 60 * time.minutes + time.second = t.seconds + 1 ∧
          time.ticks = 9999999 := by
  refine ⟨fun seconds nanos => ⟨?_, fun t ht => ⟨⟨t.timestamp, t.writtenAs_hubText⟩,
    fun time h => ?_⟩⟩, fun t hregular => ⟨⟨t.timestamp, t.writtenAs_hubText⟩, fun time h => ?_⟩⟩
  · rw [Instant.isSome_ofSeconds?, Instant.inRange_iff]
    rfl
  · obtain rfl := h.unique t.writtenAs_hubText
    obtain ⟨rfl, rfl, hregular⟩ := Instant.ofSeconds?_eq_some_iff.1 ht
    exact ⟨t.inCalendar_timestamp, Instant.timestamp_of_regular hregular⟩
  · obtain rfl := h.unique t.writtenAs_hubText
    exact ⟨t.inCalendar_timestamp, Instant.timestamp_of_not_regular hregular⟩

/-- Two leap seconds: one at the end of a year, and one after the first second of
    1970, of which the text says a time that is a second later. -/
theorem hubText_exact_in_leap_seconds :
    let a : Instant := { seconds := 1483228799, nanos := 1500000000 }
    let b : Instant := { seconds := 0, nanos := 1500000000 }
    Instant.ofSeconds? 1483228799 1500000000 = some a ∧ ¬ b.Regular ∧
      (∀ time : Timestamp, time.WrittenAs a.hubText.toList →
        time.second = 60 ∧ time.minutes = 24720479 ∧ time.ticks = 9999999) ∧
      ∀ time : Timestamp, time.WrittenAs b.hubText.toList →
        60 * time.minutes + time.second = 1 ∧ time.ticks = 9999999 := by
  intro a b
  have ha : Instant.ofSeconds? 1483228799 1500000000 = some a := by decide
  have hb : ¬ b.Regular := by decide
  obtain ⟨hgiven, hother⟩ := hubText_exact
  refine ⟨ha, hb, fun time h => ?_, fun time h => ?_⟩
  · exact (((hgiven _ _).2 a ha).2 time h).2
  · exact ((hother b hb).2 time h).2.2

end DeviceMail
