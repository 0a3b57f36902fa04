/-
  DeviceMail — JSON text read back.

  A value is written with blanks between its tokens, as a layout says, and is
  read back from that text, whatever the blanks are.

  * `readString_quoted` and `readNumber_signed` are for the tokens: a string in
    quotes and a number in decimal are read as what they denote;
  * `ReadsBack` says the same of a value, followed by anything that does not
    prolong it, and `readItems_render` and `readFields_render` carry that over to
    the items and fields between brackets;
  * `read?_render`: every value is read back from its text in every layout of
    blanks, so from `pretty` and `compact` too.
-/
import DeviceMail.Json.Printer
import DeviceMail.Json.Reader
import DeviceMail.Proofs.Cuts
import DeviceMail.Proofs.Numerals

namespace DeviceMail

namespace Json

/-! ## Blanks -/

/-- A layout that puts nothing but blanks between the tokens. -/
structure Layout.Blank (layout : Layout) : Prop where
  lineBreak : ∀ depth, ∀ c ∈ layout.lineBreak depth, isBlank c
  gap : ∀ c ∈ layout.gap, isBlank c

theorem Layout.blank_compact : Layout.compact.Blank := ⟨nofun, nofun⟩

theorem Layout.blank_indented : Layout.indented.Blank where
  lineBreak depth c hc := by
    rcases List.mem_cons.1 hc with rfl | hc
    · rfl
    · rw [List.eq_of_mem_replicate hc]
      rfl
  gap c hc := by
    rw [List.mem_singleton.1 hc]
    rfl

theorem skipBlanks_append {blanks : List Char} (h : ∀ c ∈ blanks, isBlank c) (s : List Char) :
    skipBlanks (blanks ++ s) = skipBlanks s :=
  List.dropWhile_append_of_pos h

theorem skipBlanks_cons {c : Char} (h : isBlank c = false) (s : List Char) :
    skipBlanks (c :: s) = c :: s := by
  simp [skipBlanks, h]

/-- Blanks before a value do not matter. -/
theorem readValue_append {blanks : List Char} (h : ∀ c ∈ blanks, isBlank c) (fuel : Nat)
    (s : List Char) : readValue fuel (blanks ++ s) = readValue fuel s := by
  cases fuel with
  | zero => rfl
  | succ fuel => rw [readValue, readValue, skipBlanks_append h]

/-! ## Strings -/

theorem readUnit_append {s rest : List Char} {n : Nat} (h : readUnit s = some (n, rest))
    (more : List Char) : readUnit (s ++ more) = some (n, rest ++ more) := by
  rcases s with _ | ⟨a, _ | ⟨b, _ | ⟨c, _ | ⟨d, s⟩⟩⟩⟩
  case cons.cons.cons.cons =>
    simp only [readUnit, Option.bind_eq_bind, Option.bind_eq_some_iff, Option.pure_def,
      Option.some.injEq, Prod.mk.injEq, List.cons_append] at h ⊢
    obtain ⟨a', ha, b', hb, c', hc, d', hd, rfl, rfl⟩ := h
    exact ⟨a', ha, b', hb, c', hc, d', hd, rfl, rfl⟩
  all_goals exact absurd h nofun

/-- A control is read back from its four digits. -/
theorem readCodePoint_paddedHex {c : Char} (h : c.toNat < 0x20) (rest : List Char) :
    readCodePoint (Decimal.paddedHex 4 c.toNat ++ rest) = some (c, rest) := by
  have hunits : ∀ n < 0x20, readUnit (Decimal.paddedHex 4 n) = some (n, []) := by decide
  rw [readCodePoint, readUnit_append (hunits _ h)]
  have hlow : ¬ (0xD800 ≤ c.toNat ∧ c.toNat < 0xDC00) := by omega
  have hhigh : ¬ (0xDC00 ≤ c.toNat ∧ c.toNat < 0xE000) := by omega
  simp [hlow, hhigh]

/-- A character is read back from its escape. -/
theorem readCharacters_escape (c : Char) (fuel : Nat) (rest : List Char) :
    readCharacters (fuel + 1) (escape c ++ rest) =
      (readCharacters fuel rest).map fun (text, rest) => (c :: text, rest) := by
  unfold escape
  split_ifs with hquote hbackslash hb ht hn hf hr hcontrol
  -- the escapes that are one letter after a backslash
  iterate 7
    · subst c
      simp [readCharacters, readEscape, Option.map_eq_bind]
  · simp [readCharacters, readEscape, readCodePoint_paddedHex hcontrol, Option.map_eq_bind]
  · simp [readCharacters, hquote, hbackslash, hcontrol, Option.map_eq_bind]

theorem readCharacters_flatMap_escape (text : List Char) {fuel : Nat} (h : text.length < fuel)
    (rest : List Char) :
    readCharacters fuel (text.flatMap escape ++ '"' :: rest) = some (text, rest) := by
  induction text generalizing fuel with
  | nil =>
    obtain ⟨fuel, rfl⟩ : ∃ n, fuel = n + 1 := ⟨fuel - 1, by omega⟩
    rfl
  | cons c text ih =>
    obtain ⟨fuel, rfl⟩ : ∃ n, fuel = n + 1 := ⟨fuel - 1, by omega⟩
    rw [List.flatMap_cons, List.append_assoc, readCharacters_escape,
      ih (Nat.lt_of_succ_lt_succ h), Option.map_some]

theorem length_escape_pos (c : Char) : 0 < (escape c).length := by
  unfold escape
  split_ifs <;> simp

theorem length_le_flatMap_escape (text : List Char) :
    text.length ≤ (text.flatMap escape).length := by
  induction text with
  | nil => rfl
  | cons c text ih =>
    have := length_escape_pos c
    rw [List.flatMap_cons, List.length_append, List.length_cons]
    omega

/-- **A string in quotes is read back**, once its opening quote has been. -/
theorem readString_quoted (text : String) (rest : List Char) :
    readString (text.toList.flatMap escape ++ '"' :: rest) = some (text, rest) := by
  have hfuel : text.toList.length < (text.toList.flatMap escape ++ '"' :: rest).length := by
    have := length_le_flatMap_escape text.toList
    rw [List.length_append, List.length_cons]
    omega
  rw [readString, readCharacters_flatMap_escape _ hfuel]
  exact congrArg (fun text => some (text, rest)) String.ofList_toList

/-! ## Numbers -/

/-- A text that does not prolong a number before it. -/
def NumberEnds (s : List Char) : Prop :=
  ∀ c rest, s = c :: rest → c.isDigit = false ∧ c ≠ '.' ∧ c ≠ 'e' ∧ c ≠ 'E'

theorem numberEnds_nil : NumberEnds [] := nofun

theorem numberEnds_cons {c : Char} (h : c.isDigit = false ∧ c ≠ '.' ∧ c ≠ 'e' ∧ c ≠ 'E')
    (s : List Char) : NumberEnds (c :: s) := by
  rintro _ _ ⟨⟩
  exact h

theorem numberEnds_append {blanks : List Char} (h : ∀ c ∈ blanks, isBlank c) {s : List Char}
    (hs : NumberEnds s) : NumberEnds (blanks ++ s) := by
  rcases blanks with _ | ⟨c, blanks⟩
  · exact hs
  · refine numberEnds_cons ?_ _
    have hc := h c List.mem_cons_self
    simp only [isBlank, Bool.or_eq_true, decide_eq_true_eq] at hc
    rcases hc with ((rfl | rfl) | rfl) | rfl <;> decide

theorem numeral_eq_ofDigitChars (digits : List Char) (n : Nat) :
    digits.foldl (fun value c => value * 10 + (c.toNat - '0'.toNat)) n =
      Nat.ofDigitChars 10 digits n := by
  induction digits generalizing n with
  | nil => rfl
  | cons c rest ih => rw [List.foldl_cons, ih, Nat.ofDigitChars_cons, Nat.mul_comm]

theorem numeral_digits (n : Nat) : numeral (Decimal.digits n) = n := by
  rw [numeral, numeral_eq_ofDigitChars, Decimal.ofDigitChars_digits]

/-- No number has a zero in front of other digits. -/
theorem length_digits_of_head? {n : Nat} (h : (Decimal.digits n).head? = some '0') :
    (Decimal.digits n).length = 1 := by
  by_cases hn : n = 0
  · subst n
    rfl
  · exact absurd h (Decimal.head?_digits_ne_zero hn)

theorem readNatural_digits (n : Nat) {rest : List Char} (h : NumberEnds rest) :
    readNatural (Decimal.digits n ++ rest) = some (n, rest) := by
  have hdigit : ∀ c ∈ rest.head?, c.isDigit = false := by
    intro c hc
    obtain ⟨rest, rfl⟩ := List.head?_eq_some_iff.1 hc
    exact (h c rest rfl).1
  have hends (c : Char) (hc : c = '.' ∨ c = 'e' ∨ c = 'E') : rest.head? ≠ some c := by
    rintro hhead
    obtain ⟨rest, rfl⟩ := List.head?_eq_some_iff.1 hhead
    have := h c rest rfl
    tauto
  have hdigits : ¬ (Decimal.digits n = [] ∨
      (Decimal.digits n).head? = some '0' ∧ (Decimal.digits n).length ≠ 1) := by
    rintro (hnil | ⟨hhead, hlen⟩)
    · exact Decimal.digits_ne_nil n hnil
    · exact hlen (length_digits_of_head? hhead)
  rw [readNatural, Text.takeWhile_append_of_kind Decimal.isDigit_of_mem_digits hdigit,
    Text.dropWhile_append_of_kind Decimal.isDigit_of_mem_digits hdigit, if_neg hdigits,
    if_neg (by simp [hends]), numeral_digits]

theorem readNumber_cons {c : Char} (hc : c ≠ '-') (s : List Char) :
    readNumber (c :: s) = (readNatural (c :: s)).map fun (n, rest) => ((n : Int), rest) := by
  rw [readNumber]
  simpa using hc

/-- **A number in decimal is read back.** -/
theorem readNumber_signed (z : Int) {rest : List Char} (h : NumberEnds rest) :
    readNumber (Decimal.signed z ++ rest) = some (z, rest) := by
  cases z with
  | ofNat n =>
    obtain ⟨c, digits, hd, hc⟩ := Decimal.digits_eq_cons n
    have hsign : c ≠ '-' := by
      rintro rfl
      exact absurd hc (by decide)
    have hread := readNatural_digits n h
    rw [hd, List.cons_append] at hread
    rw [Decimal.signed, hd, List.cons_append, readNumber_cons hsign, hread]
    rfl
  | negSucc n =>
    rw [Decimal.signed, List.cons_append, readNumber, readNatural_digits (n + 1) h]
    rfl

/-- Whether a number may begin with the character. -/
def beginsNumber (c : Char) : Bool := c = '-' || c.isDigit

theorem signed_eq_cons (z : Int) : ∃ c s, Decimal.signed z = c :: s ∧ beginsNumber c := by
  cases z with
  | ofNat n =>
    obtain ⟨c, digits, hd, hc⟩ := Decimal.digits_eq_cons n
    exact ⟨c, digits, hd, by simp [beginsNumber, hc]⟩
  | negSucc n => exact ⟨'-', Decimal.digits (n + 1), rfl, rfl⟩

theorem isBlank_of_beginsNumber {c : Char} (h : beginsNumber c) : isBlank c = false := by
  rw [← Bool.not_eq_true, isBlank]
  simp only [Bool.or_eq_true, decide_eq_true_eq]
  rintro (((rfl | rfl) | rfl) | rfl) <;> exact absurd h (by decide)

/-! ## Values by their first character -/

theorem readValue_null (fuel : Nat) (rest : List Char) :
    readValue (fuel + 1) ("null".toList ++ rest) = some (.null, rest) := rfl

theorem readValue_bool (b : Bool) (fuel : Nat) (rest : List Char) :
    readValue (fuel + 1) ((if b then "true".toList else "false".toList) ++ rest) =
      some (.bool b, rest) := by
  cases b <;> rfl

theorem afterWord_singleton (c : Char) (s : List Char) : afterWord [c] (c :: s) = some s := by
  simp [afterWord]

theorem readValue_quoted (text : String) (fuel : Nat) (rest : List Char) :
    readValue (fuel + 1) (quoted text ++ rest) = some (.string text, rest) := by
  have hread := readString_quoted text rest
  rw [quoted, List.cons_append, List.append_assoc, readValue, skipBlanks_cons rfl]
  simp [hread]

theorem readValue_signed (z : Int) (fuel : Nat) {rest : List Char} (h : NumberEnds rest) :
    readValue (fuel + 1) (Decimal.signed z ++ rest) = some (.number z, rest) := by
  obtain ⟨c, s, hs, hc⟩ := signed_eq_cons z
  have hread := readNumber_signed z h
  rw [hs, List.cons_append] at hread ⊢
  have hne (d : Char) (hd : beginsNumber d = false) : c ≠ d := by
    rintro rfl
    exact absurd hc (by simp [hd])
  rw [readValue, skipBlanks_cons (isBlank_of_beginsNumber hc)]
  simp [hne 'n' rfl, hne 't' rfl, hne 'f' rfl, hne '"' rfl, hne '[' rfl, hne '\x7b' rfl, hread]

theorem readValue_items {s : List Char} (h : afterWord [']'] (skipBlanks s) = none) (fuel : Nat) :
    readValue (fuel + 1) ('[' :: s) =
      (readItems fuel s).map fun (items, rest) => (.array items, rest) := by
  rw [readValue, skipBlanks_cons rfl]
  simp [h]

theorem readValue_fields {s : List Char} (h : afterWord ['\x7d'] (skipBlanks s) = none)
    (fuel : Nat) :
    readValue (fuel + 1) ('\x7b' :: s) =
      (readFields fuel s).map fun (fields, rest) => (.object fields, rest) := by
  rw [readValue, skipBlanks_cons rfl]
  simp [h]

/-! ## Values -/

/-- What holds of a value as soon as it holds of its items or fields holds of every
    value. -/
@[elab_as_elim, induction_eliminator]
theorem induction {motive : Json → Prop} (null : motive .null) (bool : ∀ b, motive (.bool b))
    (number : ∀ z, motive (.number z)) (string : ∀ text, motive (.string text))
    (array : ∀ items, (∀ v ∈ items, motive v) → motive (.array items))
    (object : ∀ fields, (∀ field ∈ fields, motive field.2) → motive (.object fields)) :
    ∀ v, motive v
  | .null => null
  | .bool b => bool b
  | .number z => number z
  | .string text => string text
  | .array items => array items fun v _ => induction null bool number string array object v
  | .object fields =>
    object fields fun field _ => induction null bool number string array object field.2
termination_by v => sizeOf v
decreasing_by
  · have := List.sizeOf_lt_of_mem ‹v ∈ items›
    rw [Json.array.sizeOf_spec]
    omega
  · have hfield := List.sizeOf_lt_of_mem ‹field ∈ fields›
    have hvalue : sizeOf field = 1 + sizeOf field.1 + sizeOf field.2 := Prod.mk.sizeOf_spec ..
    rw [Json.object.sizeOf_spec]
    omega

/-- A value is read back from its text, whatever follows that does not prolong
    it.  A unit of fuel for each character is enough. -/
def ReadsBack (layout : Layout) (v : Json) : Prop :=
  ∀ depth fuel rest, (render layout depth v).length ≤ fuel → NumberEnds rest →
    readValue fuel (render layout depth v ++ rest) = some (v, rest)

section
variable {layout : Layout}

/-- The text of a value begins with neither a blank nor a closing bracket. -/
theorem render_eq_cons (depth : Nat) (v : Json) :
    ∃ c s, render layout depth v = c :: s ∧ isBlank c = false ∧ c ≠ ']' := by
  cases v with
  | null => exact ⟨'n', _, by rw [render]; rfl, rfl, by decide⟩
  | bool b => cases b with
    | false => exact ⟨'f', _, by rw [render]; rfl, rfl, by decide⟩
    | true => exact ⟨'t', _, by rw [render]; rfl, rfl, by decide⟩
  | number z =>
    obtain ⟨c, s, hs, hc⟩ := signed_eq_cons z
    refine ⟨c, s, by rw [render, hs], isBlank_of_beginsNumber hc, ?_⟩
    rintro rfl
    exact absurd hc (by decide)
  | string text => exact ⟨'"', _, by rw [render]; rfl, rfl, by decide⟩
  | array items => cases items with
    | nil => exact ⟨'[', _, by rw [render], rfl, by decide⟩
    | cons => exact ⟨'[', _, by rw [render]; rfl, rfl, by decide⟩
  | object fields => cases fields with
    | nil => exact ⟨'\x7b', _, by rw [render], rfl, by decide⟩
    | cons => exact ⟨'\x7b', _, by rw [render]; rfl, rfl, by decide⟩

theorem afterWord_render (depth : Nat) (v : Json) (rest : List Char) :
    afterWord [']'] (skipBlanks (render layout depth v ++ rest)) = none := by
  obtain ⟨c, s, hs, hblank, hc⟩ := @render_eq_cons layout depth v
  rw [hs, List.cons_append, skipBlanks_cons hblank]
  simp [afterWord, hc.symm]

theorem length_render_pos (depth : Nat) (v : Json) : 0 < (render layout depth v).length := by
  obtain ⟨c, s, hs, -⟩ := @render_eq_cons layout depth v
  rw [hs]
  exact Nat.succ_pos _

/-- Items that are read back one by one are read back together, up to the closing
    bracket. -/
theorem readItems_render (hlayout : layout.Blank) {depth : Nat} {item : Json} {items : List Json}
    (hitem : ReadsBack layout item) (hitems : ∀ v ∈ items, ReadsBack layout v) {fuel : Nat}
    (hfuel : (render layout depth item).length + (renderItems layout depth items).length < fuel)
    {blanks : List Char} (hblanks : ∀ c ∈ blanks, isBlank c) (rest : List Char) :
    readItems fuel (layout.lineBreak depth ++ (render layout depth item ++
      (renderItems layout depth items ++ (blanks ++ ']' :: rest)))) =
      some (item :: items, rest) := by
  induction items generalizing item fuel with
  | nil =>
    obtain ⟨fuel, rfl⟩ : ∃ n, fuel = n + 1 := ⟨fuel - 1, by omega⟩
    have hends : NumberEnds (blanks ++ ']' :: rest) :=
      numberEnds_append hblanks (numberEnds_cons (by decide) rest)
    rw [renderItems, List.nil_append, readItems, readValue_append (hlayout.lineBreak depth),
      hitem depth fuel _ (by omega) hends]
    simp only [Option.bind_eq_bind, Option.bind_some, skipBlanks_append hblanks,
      skipBlanks_cons (c := ']') rfl]
    rfl
  | cons next items ih =>
    obtain ⟨fuel, rfl⟩ : ∃ n, fuel = n + 1 := ⟨fuel - 1, by omega⟩
    simp only [renderItems, List.length_append, List.length_cons] at hfuel
    obtain ⟨hnext, hitems⟩ := List.forall_mem_cons.1 hitems
    have hrest := @ih next hnext hitems fuel (by omega)
    simp only [renderItems, List.cons_append, List.append_assoc]
    rw [readItems, readValue_append (hlayout.lineBreak depth),
      hitem depth fuel _ (by omega) (numberEnds_cons (by decide) _)]
    simp only [Option.bind_eq_bind, Option.bind_some, skipBlanks_cons (c := ',') rfl, hrest]
    rfl

/-- The name of a field, its quotes and the colon are read before its value. -/
theorem readFields_name (hlayout : layout.Blank) (depth : Nat) (name : String) (fuel : Nat)
    (s : List Char) :
    readFields (fuel + 1) (layout.lineBreak depth ++ (quoted name ++ ':' :: (layout.gap ++ s))) =
      (readValue fuel s).bind fun (value, rest) =>
        match skipBlanks rest with
        | ',' :: rest =>
          (readFields fuel rest).map fun (fields, rest) => ((name, value) :: fields, rest)
        | '\x7d' :: rest => some ([(name, value)], rest)
        | _ => none := by
  have hname := readString_quoted name (':' :: (layout.gap ++ s))
  rw [readFields, skipBlanks_append (hlayout.lineBreak depth), quoted, List.cons_append,
    List.append_assoc, skipBlanks_cons rfl, List.singleton_append]
  simp only [afterWord_singleton, Option.bind_eq_bind, Option.bind_some, hname,
    skipBlanks_cons (c := ':') rfl, readValue_append hlayout.gap, Option.map_eq_bind]
  rfl

/-- Fields whose values are read back one by one are read back together, up to the
    closing brace. -/
theorem readFields_render (hlayout : layout.Blank) {depth : Nat} {name : String} {value : Json}
    {fields : List (String × Json)} (hvalue : ReadsBack layout value)
    (hfields : ∀ field ∈ fields, ReadsBack layout field.2) {fuel : Nat}
    (hfuel : (render layout depth value).length + (renderFields layout depth fields).length < fuel)
    {blanks : List Char} (hblanks : ∀ c ∈ blanks, isBlank c) (rest : List Char) :
    readFields fuel (layout.lineBreak depth ++ (quoted name ++ ':' :: (layout.gap ++
      (render layout depth value ++
        (renderFields layout depth fields ++ (blanks ++ '\x7d' :: rest)))))) =
      some ((name, value) :: fields, rest) := by
  induction fields generalizing name value fuel with
  | nil =>
    obtain ⟨fuel, rfl⟩ : ∃ n, fuel = n + 1 := ⟨fuel - 1, by omega⟩
    have hends : NumberEnds (blanks ++ '\x7d' :: rest) :=
      numberEnds_append hblanks (numberEnds_cons (by decide) rest)
    rw [renderFields, List.nil_append, readFields_name hlayout,
      hvalue depth fuel _ (by omega) hends]
    simp only [Option.bind_some, skipBlanks_append hblanks, skipBlanks_cons (c := '\x7d') rfl]
  | cons next fields ih =>
    obtain ⟨fuel, rfl⟩ : ∃ n, fuel = n + 1 := ⟨fuel - 1, by omega⟩
    simp only [renderFields, List.length_append, List.length_cons] at hfuel
    obtain ⟨hnext, hfields⟩ := List.forall_mem_cons.1 hfields
    have hrest := @ih next.1 next.2 hnext hfields fuel (by omega)
    simp only [renderFields, List.cons_append, List.append_assoc]
    rw [readFields_name hlayout, hvalue depth fuel _ (by omega) (numberEnds_cons (by decide) _)]
    simp only [Option.bind_some, skipBlanks_cons (c := ',') rfl, hrest, Option.map_some]

/-- There is fuel for the first token, as no value has an empty text. -/
theorem readsBack_of_succ {v : Json}
    (h : ∀ depth fuel rest, (render layout depth v).length ≤ fuel + 1 → NumberEnds rest →
      readValue (fuel + 1) (render layout depth v ++ rest) = some (v, rest)) :
    ReadsBack layout v := by
  intro depth fuel rest hfuel hrest
  obtain ⟨fuel, rfl⟩ : ∃ n, fuel = n + 1 :=
    Nat.exists_eq_succ_of_ne_zero ((length_render_pos depth v).trans_le hfuel).ne'
  exact h depth fuel rest hfuel hrest

theorem readsBack_array (hlayout : layout.Blank) {items : List Json}
    (h : ∀ v ∈ items, ReadsBack layout v) : ReadsBack layout (.array items) := by
  refine readsBack_of_succ fun depth fuel rest hfuel _ => ?_
  rcases items with _ | ⟨item, items⟩
  · rw [render]
    rfl
  · obtain ⟨hitem, hitems⟩ := List.forall_mem_cons.1 h
    simp only [render, List.length_append, List.length_cons, List.length_nil] at hfuel
    have hread := @readItems_render layout hlayout (depth + 1) item items hitem hitems fuel
      (by omega) (layout.lineBreak depth) (hlayout.lineBreak depth) rest
    have hopen : afterWord [']'] (skipBlanks (layout.lineBreak (depth + 1) ++
        (render layout (depth + 1) item ++ (renderItems layout (depth + 1) items ++
          (layout.lineBreak depth ++ ']' :: rest))))) = none := by
      rw [skipBlanks_append (hlayout.lineBreak _), afterWord_render]
    simp only [render, List.cons_append, List.append_assoc, List.nil_append]
    rw [readValue_items hopen, hread, Option.map_some]

theorem readsBack_object (hlayout : layout.Blank) {fields : List (String × Json)}
    (h : ∀ field ∈ fields, ReadsBack layout field.2) : ReadsBack layout (.object fields) := by
  refine readsBack_of_succ fun depth fuel rest hfuel _ => ?_
  rcases fields with _ | ⟨⟨name, value⟩, fields⟩
  · rw [render]
    rfl
  · obtain ⟨hvalue, hfields⟩ := List.forall_mem_cons.1 h
    simp only [render, List.length_append, List.length_cons, List.length_nil] at hfuel
    have hread := @readFields_render layout hlayout (depth + 1) name value fields hvalue hfields
      fuel (by omega) (layout.lineBreak depth) (hlayout.lineBreak depth) rest
    simp only [render, List.cons_append, List.append_assoc, List.nil_append]
    rw [readValue_fields ?_, hread, Option.map_some]
    -- a name opens the object, so it does not end at once
    rw [skipBlanks_append (hlayout.lineBreak _), quoted, List.cons_append, skipBlanks_cons rfl]
    rfl

/-- Every value is read back, by induction from its items and fields. -/
theorem readsBack (hlayout : layout.Blank) (v : Json) : ReadsBack layout v := by
  induction v with
  | array items ih => exact readsBack_array hlayout ih
  | object fields ih => exact readsBack_object hlayout ih
  | null => exact readsBack_of_succ fun depth fuel rest _ _ => by rw [render, readValue_null]
  | bool b =>
    have hrender (depth : Nat) : render layout depth (.bool b) =
        if b then "true".toList else "false".toList := by cases b <;> rw [render] <;> rfl
    exact readsBack_of_succ fun depth fuel rest _ _ => by rw [hrender, readValue_bool]
  | number z =>
    exact readsBack_of_succ fun depth fuel rest _ hrest => by
      rw [render, readValue_signed z fuel hrest]
  | string text =>
    exact readsBack_of_succ fun depth fuel rest _ _ => by rw [render, readValue_quoted]

end

/-! ## Whole texts -/

/-- **Every value is read back from its text**, whatever blanks the layout puts
    between the tokens. -/
theorem read?_render {layout : Layout} (hlayout : layout.Blank) (v : Json) :
    read? (.ofList (render layout 0 v)) = some v := by
  have hread := readsBack hlayout v 0 ((render layout 0 v).length + 1) [] (Nat.le_succ _)
    numberEnds_nil
  rw [List.append_nil] at hread
  rw [read?, String.toList_ofList, hread]
  rfl

theorem read?_pretty (v : Json) : read? v.pretty = some v := read?_render Layout.blank_indented v

theorem read?_compact (v : Json) : read? v.compact = some v := read?_render Layout.blank_compact v

end Json

end DeviceMail
