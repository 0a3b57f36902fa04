/-
  DeviceMail — where a quoted string ends.

  * `hexValue_hex`: hexadecimal digits are read as the number they denote;
  * `unescape` reads one character inside quotes, and `unescape_escape`: that is
    the character that was written, whether it is escaped or not;
  * `quoted_append_inj`: so a quoted string says which string it is and where it
    ends, whatever the string holds and whatever follows.
-/
import DeviceMail.Json.Reader
import DeviceMail.Proofs.Cuts
import DeviceMail.Text.Quoted
import Mathlib.Tactic.SplitIfs

namespace DeviceMail

/-! ## Hexadecimal digits -/

namespace Decimal

/-- The number that hexadecimal digits denote. -/
def hexValue (digits : List Char) : Nat :=
  digits.foldl (fun value c => value * 16 + (Json.hexDigit? c).getD 0) 0

theorem hexDigit?_digitChar : ∀ d < 16, Json.hexDigit? (Nat.digitChar d) = some d := by decide

/-- The digits of a number, but for the last, are those of a sixteenth of it. -/
theorem hex_of_le {n : Nat} (h : 16 ≤ n) : hex n = hex (n / 16) ++ [Nat.digitChar (n % 16)] :=
  Nat.toDigits_of_base_le (by decide) h

theorem hex_of_lt {n : Nat} (h : n < 16) : hex n = [Nat.digitChar n] := Nat.toDigits_of_lt_base h

theorem hexValue_hex (n : Nat) : hexValue (hex n) = n := by
  induction n using Nat.strongRecOn with
  | ind n ih =>
    rcases Nat.lt_or_ge n 16 with h | h
    · simp [hex_of_lt h, hexValue, hexDigit?_digitChar n h]
    · have hrest := ih (n / 16) (by omega)
      rw [hexValue] at hrest
      rw [hex_of_le h, hexValue, List.foldl_append, hrest]
      simp only [List.foldl_cons, List.foldl_nil, hexDigit?_digitChar _ (Nat.mod_lt n (by decide)),
        Option.getD_some]
      omega

theorem isSome_hexDigit?_of_mem_hex {n : Nat} : ∀ c ∈ hex n, (Json.hexDigit? c).isSome := by
  induction n using Nat.strongRecOn with
  | ind n ih =>
    rcases Nat.lt_or_ge n 16 with h | h
    · simp [hex_of_lt h, hexDigit?_digitChar n h]
    · rw [hex_of_le h, List.forall_mem_append]
      refine ⟨ih (n / 16) (by omega), ?_⟩
      simp [hexDigit?_digitChar _ (Nat.mod_lt n (by decide))]

end Decimal

namespace Text

/-! ## One character -/

/-- The character at the start of what stands between quotes. -/
def unescape : List Char → Option (Char × List Char)
  | [] => none
  | c :: rest =>
    if c = '\\' then
      match rest with
      | 'u' :: '\x7b' :: rest =>
        some (Char.ofNat (Decimal.hexValue (rest.takeWhile (· ≠ '\x7d'))),
          (rest.dropWhile (· ≠ '\x7d')).tail)
      | 'n' :: rest => some ('\n', rest)
      | 'r' :: rest => some ('\r', rest)
      | 't' :: rest => some ('\t', rest)
      | '0' :: rest => some ('\x00', rest)
      | c :: rest => some (c, rest)
      | [] => none
    else some (c, rest)

/-- A code point in hexadecimal ends at the closing brace. -/
theorem unescape_hex (c : Char) (s : List Char) :
    unescape (['\\', 'u', '\x7b'] ++ Decimal.hex c.toNat ++ ['\x7d'] ++ s) = some (c, s) := by
  have hdigits : ∀ d ∈ Decimal.hex c.toNat, decide (d ≠ '\x7d') := by
    intro d hd
    have hsome := Decimal.isSome_hexDigit?_of_mem_hex d hd
    refine decide_eq_true ?_
    rintro rfl
    exact absurd hsome (by decide)
  have hbrace : ∀ d ∈ ('\x7d' :: s).head?, decide (d ≠ '\x7d') = false := by simp
  have htake := takeWhile_append_of_kind hdigits hbrace
  have hdrop := dropWhile_append_of_kind hdigits hbrace
  simp only [List.cons_append, List.nil_append, List.append_assoc, unescape, if_true]
  rw [htake, hdrop, Decimal.hexValue_hex, Char.ofNat_toNat, List.tail_cons]

/-- **A character is read back from inside quotes.** -/
theorem unescape_escape (c : Char) (s : List Char) : unescape (escape c ++ s) = some (c, s) := by
  unfold escape
  split_ifs with hquote hbackslash hn hr ht hzero hhidden
  -- the escapes that are one character after a backslash
  iterate 6
    · subst c
      rfl
  · exact unescape_hex c s
  · simp [unescape, hbackslash]

theorem escape_append_inj {c d : Char} {s t : List Char} (h : escape c ++ s = escape d ++ t) :
    c = d ∧ s = t := by
  have hread := unescape_escape c s
  rw [h, unescape_escape d t] at hread
  obtain ⟨rfl, rfl⟩ := Prod.mk.inj (Option.some.inj hread)
  exact ⟨rfl, rfl⟩

/-- No character is written as a bare quote. -/
theorem escape_eq_cons (c : Char) : ∃ d rest, escape c = d :: rest ∧ d ≠ '"' := by
  unfold escape
  split_ifs with hquote
  all_goals exact ⟨_, _, rfl, by first | decide | exact hquote⟩

/-! ## Strings -/

theorem flatMap_escape_append_inj {xs ys s t : List Char}
    (h : xs.flatMap escape ++ '"' :: s = ys.flatMap escape ++ '"' :: t) : xs = ys ∧ s = t := by
  induction xs generalizing ys with
  | nil =>
    rcases ys with _ | ⟨y, ys⟩
    · exact ⟨rfl, (List.cons.inj h).2⟩
    · obtain ⟨d, rest, hd, hne⟩ := escape_eq_cons y
      rw [List.flatMap_cons, hd] at h
      exact absurd (List.cons.inj h).1.symm hne
  | cons x xs ih =>
    rcases ys with _ | ⟨y, ys⟩
    · obtain ⟨d, rest, hd, hne⟩ := escape_eq_cons x
      rw [List.flatMap_cons, hd] at h
      exact absurd (List.cons.inj h).1 hne
    · rw [List.flatMap_cons, List.flatMap_cons, List.append_assoc, List.append_assoc] at h
      obtain ⟨rfl, hrest⟩ := escape_append_inj h
      obtain ⟨rfl, rfl⟩ := ih hrest
      exact ⟨rfl, rfl⟩

/-- **A quoted string says which string it is and where it ends.** -/
theorem quoted_append_inj {a b : String} {s t : List Char} (h : quoted a ++ s = quoted b ++ t) :
    a = b ∧ s = t := by
  rw [quoted, quoted, List.cons_append, List.cons_append, List.append_assoc,
    List.append_assoc] at h
  obtain ⟨htext, rfl⟩ := flatMap_escape_append_inj (List.cons.inj h).2
  exact ⟨String.toList_inj.1 htext, rfl⟩

theorem quoted_inj {a b : String} : quoted a = quoted b ↔ a = b := by
  refine ⟨fun h => ?_, fun h => by rw [h]⟩
  exact (@quoted_append_inj a b [] [] (by rw [h])).1

end Text

end DeviceMail
