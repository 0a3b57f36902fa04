/-
  DeviceMail — values under names.

  A name holds at most one value; `get?_put` and `get?_remove` say all that
  there is to know about the two operations.
-/

namespace DeviceMail

/-- Values under names. -/
structure Slots (α : Type) where
  entries : List (String × α) := []

namespace Slots

variable {α : Type}

/-- No values. -/
def empty : Slots α := {}

/-- The value under a name. -/
def get? (slots : Slots α) (name : String) : Option α := slots.entries.lookup name

/-- Frees a name. -/
def remove (slots : Slots α) (name : String) : Slots α :=
  ⟨slots.entries.filter fun entry => entry.1 ≠ name⟩

/-- Puts a value under a name, in place of what it held. -/
def put (slots : Slots α) (name : String) (value : α) : Slots α :=
  ⟨(name, value) :: (slots.remove name).entries⟩

@[simp] theorem get?_empty (name : String) : (empty : Slots α).get? name = none := rfl

@[simp] theorem get?_remove (slots : Slots α) (name other : String) :
    (slots.remove name).get? other = if other = name then none else slots.get? other := by
  obtain ⟨entries⟩ := slots
  simp only [get?, remove]
  induction entries with
  | nil => simp
  | cons entry rest ih =>
    obtain ⟨key, value⟩ := entry
    rw [List.filter_cons]
    by_cases hk : key = name
    · subst hk
      by_cases ho : other = key
      · simpa [ho] using ih
      · have hb : (other == key) = false := by simp [ho]
        simpa [List.lookup_cons, hb, ho] using ih
    · by_cases ho : other = key
      · simp [hk, ho]
      · have hb : (other == key) = false := by simp [ho]
        simpa [List.lookup_cons, hb, hk] using ih

@[simp] theorem get?_put (slots : Slots α) (name other : String) (value : α) :
    (slots.put name value).get? other = if other = name then some value else slots.get? other := by
  by_cases ho : other = name
  · simp [put, get?, ho]
  · have hb : (other == name) = false := by simp [ho]
    have h := get?_remove slots name other
    simp only [get?, if_neg ho] at h
    simp [put, get?, List.lookup_cons, hb, ho, h]

theorem get?_put_self (slots : Slots α) (name : String) (value : α) :
    (slots.put name value).get? name = some value := by
  rw [get?_put, if_pos rfl]

theorem get?_put_of_ne (slots : Slots α) {name other : String} (h : other ≠ name) (value : α) :
    (slots.put name value).get? other = slots.get? other := by
  rw [get?_put, if_neg h]

end Slots

end DeviceMail
