/-
  DeviceMail — where a text is cut.

  A part of a text whose characters are all of one kind ends at the first
  character of another kind.  So it is told apart from what follows it, and two
  such parts with something behind them are the same part if the texts are
  (`append_inj_of_kind`).

  A text in which a character occurs more than once can be cut at any of these
  places (`append_cons_eq_iff`).
-/
import Mathlib.Data.List.TakeWhile

namespace DeviceMail.Text

section
variable {kind : Char → Bool} {xs ys s t : List Char}

theorem takeWhile_append_of_kind (hxs : ∀ c ∈ xs, kind c) (hs : ∀ c ∈ s.head?, kind c = false) :
    (xs ++ s).takeWhile kind = xs := by
  rw [List.takeWhile_append_of_pos hxs]
  cases s with
  | nil => exact List.append_nil xs
  | cons c s => rw [List.takeWhile_cons_of_neg (by simp [hs c rfl]), List.append_nil]

theorem dropWhile_append_of_kind (hxs : ∀ c ∈ xs, kind c) (hs : ∀ c ∈ s.head?, kind c = false) :
    (xs ++ s).dropWhile kind = s := by
  rw [List.dropWhile_append_of_pos hxs]
  cases s with
  | nil => rfl
  | cons c s => exact List.dropWhile_cons_of_neg (by simp [hs c rfl])

/-- **A part of one kind ends where the kind does.** -/
theorem append_inj_of_kind (hxs : ∀ c ∈ xs, kind c) (hs : ∀ c ∈ s.head?, kind c = false)
    (hys : ∀ c ∈ ys, kind c) (ht : ∀ c ∈ t.head?, kind c = false) (h : xs ++ s = ys ++ t) :
    xs = ys ∧ s = t := by
  constructor
  · rw [← takeWhile_append_of_kind hxs hs, h, takeWhile_append_of_kind hys ht]
  · rw [← dropWhile_append_of_kind hxs hs, h, dropWhile_append_of_kind hys ht]

end

section
variable {c : Char} {xs ys s t : List Char}

/-- **Two cuts of one text at a character** are at the same place, or there is a
    part between the places. -/
theorem append_cons_eq_iff :
    xs ++ c :: s = ys ++ c :: t ↔
      (xs = ys ∧ s = t) ∨ (∃ between, xs = ys ++ c :: between ∧ t = between ++ c :: s) ∨
        ∃ between, ys = xs ++ c :: between ∧ s = between ++ c :: t := by
  constructor
  · intro h
    rcases List.append_eq_append_iff.1 h with ⟨rest, rfl, hrest⟩ | ⟨rest, rfl, hrest⟩
    · rcases List.cons_eq_append_iff.1 hrest with ⟨rfl, hsame⟩ | ⟨between, rfl, hs⟩
      · simpa using hsame.symm
      · exact .inr (.inr ⟨between, rfl, hs⟩)
    · rcases List.cons_eq_append_iff.1 hrest with ⟨rfl, hsame⟩ | ⟨between, rfl, ht⟩
      · simpa using hsame
      · exact .inr (.inl ⟨between, rfl, ht⟩)
  · rintro (⟨rfl, rfl⟩ | ⟨between, rfl, rfl⟩ | ⟨between, rfl, rfl⟩)
    · rfl
    · rw [List.append_assoc, List.cons_append]
    · rw [List.append_assoc, List.cons_append]

/-- A text has one first cut. -/
theorem append_cons_inj_of_notMem (hxs : c ∉ xs) (hys : c ∉ ys)
    (h : xs ++ c :: s = ys ++ c :: t) : xs = ys ∧ s = t := by
  rcases append_cons_eq_iff.1 h with hsame | ⟨between, rfl, -⟩ | ⟨between, rfl, -⟩
  · exact hsame
  · exact absurd (by simp) hxs
  · exact absurd (by simp) hys

end

end DeviceMail.Text
