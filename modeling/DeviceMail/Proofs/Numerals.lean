/-
  DeviceMail — numbers read back from their digits.

  * `appendDigits_of_isDigit`: digits are read as the number that they denote, if
    that lies within 64 bits; a number that lies there has no digits that lead
    out of it on the way;
  * `readInt64_signedText`: a 64-bit number in decimal is read as that number;
  * `Numeral` says that digits of a given width denote a number, and
    `numeral_padded`: zeros on the left make up such a width.
-/
import DeviceMail.Text.Decimal
import Mathlib.Tactic.Ring

namespace DeviceMail.Decimal

theorem digit?_of_isDigit {c : Char} (h : c.isDigit) : digit? c = some (c.toNat - '0'.toNat) :=
  if_pos h

theorem le_ofDigitChars (n : Nat) (digits : List Char) : n ≤ Nat.ofDigitChars 10 digits n := by
  rw [Nat.ofDigitChars_eq_ofDigitChars_zero]
  exact (Nat.le_mul_of_pos_left n (Nat.pow_pos (by decide))).trans (Nat.le_add_right _ _)

/-- **Digits are read as the number that they denote**, after `n` and with a
    sign.  The numbers on the way lie between zero and the last one, so only that
    one has to be within bounds. -/
theorem appendDigits_of_isDigit {sign : Int} (hsign : sign = 1 ∨ sign = -1) {digits : List Char}
    (hdigits : ∀ c ∈ digits, c.isDigit) {n : Nat}
    (hmin : Int64.minValue.toInt ≤ sign * Nat.ofDigitChars 10 digits n)
    (hmax : sign * Nat.ofDigitChars 10 digits n ≤ Int64.maxValue.toInt) :
    appendDigits sign (sign * n) digits = .ok (sign * Nat.ofDigitChars 10 digits n) := by
  induction digits generalizing n with
  | nil => rfl
  | cons c rest ih =>
    obtain ⟨hc, hrest⟩ := List.forall_mem_cons.1 hdigits
    rw [Nat.ofDigitChars_cons] at hmin hmax ⊢
    generalize hd : c.toNat - '0'.toNat = d at hmin hmax ⊢
    have hnext : sign * n * 10 + sign * d = sign * (10 * n + d : Nat) := by
      push_cast
      ring
    -- digits that follow make a number no smaller, so it is within bounds already
    have hle := le_ofDigitChars (10 * n + d) rest
    have hbounds : Int64.minValue.toInt ≤ 0 ∧ 0 ≤ Int64.maxValue.toInt := by decide
    have hnotAbove : ¬ Int64.maxValue.toInt < sign * (10 * n + d : Nat) := by
      rcases hsign with rfl | rfl <;> omega
    have hnotBelow : ¬ sign * (10 * n + d : Nat) < Int64.minValue.toInt := by
      rcases hsign with rfl | rfl <;> omega
    rw [appendDigits, digit?_of_isDigit hc, hd]
    simp only [hnext, if_neg hnotAbove, if_neg hnotBelow]
    exact ih hrest hmin hmax

/-! ## Numbers in decimal -/

theorem digits_ne_nil (n : Nat) : digits n ≠ [] := Nat.toDigits_ne_nil

theorem isDigit_of_mem_digits {n : Nat} : ∀ c ∈ digits n, c.isDigit :=
  fun _ => Nat.isDigit_of_mem_toDigits (by decide) (by decide)

theorem digits_eq_cons (n : Nat) : ∃ c rest, digits n = c :: rest ∧ c.isDigit := by
  obtain ⟨c, rest, h⟩ := List.exists_cons_of_ne_nil (digits_ne_nil n)
  exact ⟨c, rest, h, isDigit_of_mem_digits c (h ▸ List.mem_cons_self)⟩

theorem ofDigitChars_digits (n : Nat) : Nat.ofDigitChars 10 (digits n) 0 = n :=
  Nat.ofDigitChars_ten_toDigits

theorem digits_inj {m n : Nat} : digits m = digits n ↔ m = n := by
  refine ⟨fun h => ?_, fun h => by rw [h]⟩
  rw [← ofDigitChars_digits m, h, ofDigitChars_digits]

/-- No number but zero begins with a zero. -/
theorem head?_digits_ne_zero {n : Nat} (h : n ≠ 0) : (digits n).head? ≠ some '0' := by
  induction n using Nat.strongRecOn with
  | ind n ih =>
    rw [digits]
    by_cases hn : n < 10
    · rw [Nat.toDigits_of_lt_base hn]
      simpa using h
    · rw [Nat.toDigits_of_base_le (by decide) (not_lt.1 hn)]
      -- the first digit is that of a tenth of the number
      have hfirst := ih (n / 10) (by omega) (by omega)
      rcases hd : digits (n / 10) with _ | ⟨c, rest⟩
      · exact absurd hd (digits_ne_nil _)
      · rw [hd] at hfirst
        rw [← digits, hd]
        exact hfirst

theorem appendDigits_digits {sign : Int} (hsign : sign = 1 ∨ sign = -1) {n : Nat}
    (hmin : Int64.minValue.toInt ≤ sign * n) (hmax : sign * n ≤ Int64.maxValue.toInt) :
    appendDigits sign 0 (digits n) = .ok (sign * n) := by
  have h := @appendDigits_of_isDigit sign hsign (digits n) isDigit_of_mem_digits 0
  rw [ofDigitChars_digits] at h
  simpa using h hmin hmax

theorem readInteger_signed {z : Int} (hmin : Int64.minValue.toInt ≤ z)
    (hmax : z ≤ Int64.maxValue.toInt) : readInteger (signed z) = .ok z := by
  cases z with
  | ofNat n =>
    have hread := @appendDigits_digits 1 (Or.inl rfl) n
    rw [one_mul] at hread
    obtain ⟨c, rest, hd, hc⟩ := digits_eq_cons n
    -- the first digit is no sign
    have hsign : ¬ (c = '+' ∨ c = '-') := by
      rintro (rfl | rfl) <;> exact absurd hc (by decide)
    rw [signed, hd, readInteger, if_neg hsign, ← hd]
    exact hread hmin hmax
  | negSucc n =>
    have hneg : Int.negSucc n = -1 * ((n + 1 : Nat) : Int) := by omega
    rw [hneg] at hmin hmax
    rw [signed, readInteger, if_pos (Or.inr rfl), if_neg (digits_ne_nil _), if_pos rfl, hneg]
    exact appendDigits_digits (Or.inr rfl) hmin hmax

/-- **A 64-bit number in decimal is read as that number.** -/
theorem readInt64_signedText (i : Int64) : readInt64 (signedText i.toInt) = .ok i := by
  rw [readInt64, signedText, String.toList_ofList,
    readInteger_signed i.minValue_le_toInt i.toInt_le, Except.map, Int64.ofInt_toInt]

/-! ## Numbers of a fixed width -/

/-- Decimal digits, exactly `width` of them, that denote `n`. -/
structure Numeral (width n : Nat) (text : List Char) : Prop where
  length : text.length = width
  isDigit : ∀ c ∈ text, c.isDigit
  value : Nat.ofDigitChars 10 text 0 = n

theorem numeral_digits (n : Nat) : Numeral (digits n).length n (digits n) :=
  ⟨rfl, isDigit_of_mem_digits, ofDigitChars_digits n⟩

theorem isDigit_of_mem_padded {width n : Nat} : ∀ c ∈ padded width n, c.isDigit := by
  intro c hc
  rw [padded, List.leftpad, List.mem_append] at hc
  rcases hc with hc | hc
  · rw [List.eq_of_mem_replicate hc]
    rfl
  · exact isDigit_of_mem_digits c hc

theorem numeral_padded {width n : Nat} (hw : 0 < width) (h : n < 10 ^ width) :
    Numeral width n (padded width n) where
  length := by
    have hlen := (Nat.length_toDigits_le_iff (by decide) hw).2 h
    rw [padded, List.length_leftpad]
    exact Nat.max_eq_left hlen
  isDigit := isDigit_of_mem_padded
  value := by
    rw [padded, List.leftpad, Nat.ofDigitChars_append, Nat.ofDigitChars_replicate_zero,
      Nat.mul_zero, ofDigitChars_digits]

/-- A number with more digits than the width is written in full. -/
theorem padded_eq_digits {width n : Nat} (hw : 0 < width) (h : 10 ^ width ≤ n) :
    padded width n = digits n := by
  have hlen : ¬ (digits n).length ≤ width := fun hle =>
    not_lt.2 h ((Nat.length_toDigits_le_iff (by decide) hw).1 hle)
  rw [padded, List.leftpad, Nat.sub_eq_zero_of_le (by omega)]
  rfl

end DeviceMail.Decimal
