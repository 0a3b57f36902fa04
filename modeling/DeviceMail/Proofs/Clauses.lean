/-
  DeviceMail — drafts written out as arguments.

  A draft is written as a clause for each of its parts: an option, spelled in one
  of its ways, and the value after it.  The clauses may stand in any order, but
  properties keep theirs.

  * `Draft.clauses` are the clauses of a draft, `Draft.WrittenAs` says that
    arguments write them out, `Draft.Writable` that no value looks like an option;
  * `ofArguments_parts`: the items of such arguments are those of the clauses;
  * `filter_clauses`: for each option they are the same in every order;
  * `ofItems_of_collects`: from such items the draft is collected;
  * `ofArguments_of_writtenAs`: so the arguments describe the draft.
-/
import DeviceMail.CommandLine.Draft
import DeviceMail.Draft.Compose
import DeviceMail.Proofs.Numerals
import DeviceMail.Proofs.PropertyArguments
import Mathlib.Data.List.Forall2
import Mathlib.Data.List.Perm.Basic
import Mathlib.Data.List.ReduceOption

namespace DeviceMail

/-! ## Clauses -/

/-- The ways to spell an option: in full, or by its letter. -/
def OptionName.spellings (name : OptionName) : List String :=
  ("--" ++ name.long) :: name.letter.toList.map fun c => String.ofList ['-', c]

/-- A use of an option, with a value unless the option is a flag. -/
structure Clause where
  name : OptionName
  value : Option String
  deriving DecidableEq

namespace Clause

/-- The arguments are the option in one of its spellings, and the value. -/
def WrittenAs (c : Clause) (args : List String) : Prop :=
  ∃ spelling ∈ c.name.spellings, args = spelling :: c.value.toList

/-- What the clause contributes to a draft. -/
def items (c : Clause) : List Item := .given c.name :: c.value.toList.map (.value c.name)

/-- There is a value if the option takes one, and the value is none that could
    be taken for another option. -/
def Fits (c : Clause) : Prop :=
  c.value.isSome = c.name.takesValue ∧
    ∀ text ∈ c.value, c.name.takesDashes ∨ text.toList.head? ≠ some '-'

end Clause

namespace Draft

/-- The text in a draft that is the value of an option as it is. -/
def textOf? (draft : Draft) : OptionName → Option String
  | .text => draft.text
  | .base64 => draft.base64
  | .messageId => draft.messageId
  | .correlationId => draft.correlationId
  | .contentType => draft.contentType
  | .contentEncoding => draft.contentEncoding
  | .outputName => draft.outputName
  | .component => draft.component
  | .device => draft.device
  | .onDevice => draft.onDevice
  | .property | .expiresIn | .expiresAt | .stampCreationTime | .security => none

/-- The values with which a draft uses an option: properties with an equals sign
    after the name, times in decimal.  A flag is used without a value. -/
def uses (draft : Draft) : OptionName → List (Option String)
  | .property => draft.properties.map fun p => some (p.name ++ "=" ++ p.value)
  | .expiresIn => draft.expiresIn.toList.map fun time => some (Decimal.signedText time.toInt)
  | .expiresAt => draft.expiresAt.toList.map fun time => some (Decimal.signedText time.toInt)
  | .stampCreationTime => if draft.stampCreationTime then [none] else []
  | .security => if draft.security then [none] else []
  | name => (draft.textOf? name).toList.map some

/-- The clauses of a draft, option by option. -/
def clauses (draft : Draft) : List Clause :=
  OptionName.all.flatMap fun name => (draft.uses name).map (⟨name, ·⟩)

/-- The arguments write out the clauses of the draft, in any order in which the
    properties keep theirs. -/
def WrittenAs (draft : Draft) (args : List String) : Prop :=
  ∃ (clauses : List Clause) (parts : List (List String)),
    clauses.Perm draft.clauses ∧
    clauses.filter (·.name = .property) = draft.clauses.filter (·.name = .property) ∧
    List.Forall₂ Clause.WrittenAs clauses parts ∧ args = parts.flatten

/-- A draft that arguments can describe: no text begins with a dash, and the name
    of a property is not empty, has no equals sign and does not begin with a dash
    either. -/
structure Writable (draft : Draft) : Prop where
  texts : ∀ name, ∀ text ∈ draft.textOf? name, text.toList.head? ≠ some '-'
  properties : ∀ p ∈ draft.properties,
    p.name ≠ "" ∧ '=' ∉ p.name.toList ∧ p.name.toList.head? ≠ some '-'

end Draft

/-! ## Reading one clause -/

namespace Item

theorem ofOption_spelling (name : OptionName) : ∀ spelling ∈ name.spellings,
    spelling ≠ "--" ∧ looksLikeOption spelling.toList ∧
      ofOption spelling.toList =
        .ok ([.given name], if name.takesValue then some name else none) := by
  cases name <;> decide +kernel

/-- Items put before those that were read. -/
def prepend (items : List Item) (result : Except Stop (List Item × Option OptionName)) :
    Except Stop (List Item × Option OptionName) :=
  result.map fun (others, last) => (items ++ others, last)

theorem prepend_prepend (a b : List Item) (result : Except Stop (List Item × Option OptionName)) :
    prepend a (prepend b result) = prepend (a ++ b) result := by
  rcases result with stop | ⟨others, last⟩
  · rfl
  · simp [prepend, Except.map]

/-- An argument that is read gives its items before those of the rest. -/
theorem ofArguments_cons {pending next : Option OptionName} {argument : String} {items : List Item}
    (hdashes : ¬ (argument = "--" ∧ claimsAll pending = false))
    (hread : ofArgument pending argument = .ok (items, next)) (rest : List String) :
    ofArguments pending (argument :: rest) = prepend items (ofArguments next rest) := by
  rw [ofArguments, if_neg hdashes, hread]
  simp only
  rcases ofArguments next rest with stop | ⟨others, last⟩
  · rfl
  · rfl

/-- A spelling is read as its option, unless the option before it takes
    everything. -/
theorem ofArguments_spelling {pending : Option OptionName} (hp : claimsAll pending = false)
    {name : OptionName} {spelling : String} (h : spelling ∈ name.spellings) (rest : List String) :
    ofArguments pending (spelling :: rest) =
      prepend [.given name] (ofArguments (if name.takesValue then some name else none) rest) := by
  obtain ⟨hne, hlooks, hoption⟩ := ofOption_spelling name spelling h
  refine ofArguments_cons (fun h => hne h.1) ?_ rest
  unfold ofArgument
  rw [hlooks, hp, Bool.not_false, Bool.and_self, if_pos rfl, hoption]

theorem ofArguments_value {name : OptionName} {text : String}
    (h : name.takesDashes ∨ text.toList.head? ≠ some '-') (rest : List String) :
    ofArguments (some name) (text :: rest) =
      prepend [.value name text] (ofArguments (pendingAfter name) rest) := by
  have hdashes : ¬ (text = "--" ∧ claimsAll (some name) = false) := by
    rintro ⟨rfl, hclaims⟩
    rcases h with h | h
    · simp [claimsAll, h] at hclaims
    · exact h (by decide)
  have hlooks : (looksLikeOption text.toList && !claimsAll (some name)) = false := by
    rcases h with h | h
    · simp [claimsAll, h]
    · simp [looksLikeOption, h]
  refine ofArguments_cons hdashes ?_ rest
  rw [ofArgument, hlooks, if_neg Bool.false_ne_true]

/-- No option that has its value claims what comes next. -/
theorem claimsAll_pendingAfter (name : OptionName) : claimsAll (pendingAfter name) = false := by
  cases name <;> rfl

/-- **A clause is read as its items**, whatever comes after it. -/
theorem ofArguments_clause {c : Clause} (hc : c.Fits) {part : List String}
    (hpart : c.WrittenAs part)
    {pending : Option OptionName} (hp : claimsAll pending = false) (rest : List String) :
    ofArguments pending (part ++ rest) =
      prepend c.items (ofArguments (pendingAfter c.name) rest) := by
  obtain ⟨name, value⟩ := c
  obtain ⟨spelling, hspelling, rfl⟩ := hpart
  obtain ⟨htakes, hvalue⟩ := hc
  rw [List.cons_append, ofArguments_spelling hp hspelling, ← htakes]
  cases value with
  | none =>
    have hafter : pendingAfter name = none := by
      cases name with
      | property => cases htakes
      | _ => rfl
    rw [hafter]
    rfl
  | some text =>
    have hread := ofArguments_value (hvalue text rfl) rest
    simp only [Option.isSome_some, if_true, Option.toList_some, List.singleton_append, hread,
      prepend_prepend]
    rfl

/-! ## Looking through the items of clauses -/

theorem valuesOf_append (a b : List Item) (name : OptionName) :
    valuesOf (a ++ b) name = valuesOf a name ++ valuesOf b name := List.filterMap_append

theorem valuesOf_items (c : Clause) (name : OptionName) :
    valuesOf c.items name = if c.name = name then c.value.toList else [] := by
  obtain ⟨other, value⟩ := c
  cases value with
  | none => simp [Clause.items, valuesOf, valueOf?]
  | some text =>
    by_cases h : other = name <;> simp [Clause.items, valuesOf, List.filterMap_cons, valueOf?, h]

theorem timesGiven_items (c : Clause) (name : OptionName) :
    timesGiven c.items name = if c.name = name then 1 else 0 := by
  obtain ⟨other, value⟩ := c
  cases value with
  | none => by_cases h : other = name <;> simp [Clause.items, timesGiven, h]
  | some text => by_cases h : other = name <;> simp [Clause.items, timesGiven, h]

theorem valuesOf_clauses (clauses : List Clause) (name : OptionName) :
    valuesOf (clauses.flatMap Clause.items) name =
      ((clauses.filter (·.name = name)).map (·.value)).reduceOption := by
  induction clauses with
  | nil => rfl
  | cons c rest ih =>
    rw [List.flatMap_cons, valuesOf_append, valuesOf_items, ih]
    by_cases h : c.name = name
    · rw [if_pos h, List.filter_cons_of_pos (by simpa using h), List.map_cons]
      cases c.value <;> simp
    · rw [if_neg h, List.filter_cons_of_neg (by simpa using h), List.nil_append]

theorem timesGiven_clauses (clauses : List Clause) (name : OptionName) :
    timesGiven (clauses.flatMap Clause.items) name = (clauses.filter (·.name = name)).length := by
  induction clauses with
  | nil => rfl
  | cons c rest ih =>
    rw [List.flatMap_cons, timesGiven, List.count_append, ← timesGiven, ← timesGiven, ih,
      timesGiven_items]
    by_cases h : c.name = name
    · rw [if_pos h, List.filter_cons_of_pos (by simpa using h), List.length_cons, Nat.add_comm]
    · rw [if_neg h, List.filter_cons_of_neg (by simpa using h), Nat.zero_add]

theorem valuesOf_items_of_pendingAfter {c : Clause} (hc : c.Fits) {name : OptionName}
    (h : pendingAfter c.name = some name) : valuesOf c.items name ≠ [] := by
  have hname : c.name = name ∧ c.name.takesValue = true := by
    revert h
    cases c.name with
    | property => simp [pendingAfter, OptionName.repeats, OptionName.takesValue]
    | _ => simp [pendingAfter, OptionName.repeats]
  obtain ⟨text, htext⟩ := Option.isSome_iff_exists.1 (hc.1.trans hname.2)
  rw [valuesOf_items, if_pos hname.1, htext]
  exact List.cons_ne_nil _ _

/-- **Clauses written one after the other are read as their items.**  An option
    that could take another value at the end has got one. -/
theorem ofArguments_parts {clauses : List Clause} (hfits : ∀ c ∈ clauses, c.Fits)
    {parts : List (List String)} (hparts : List.Forall₂ Clause.WrittenAs clauses parts)
    {pending : Option OptionName} (hp : claimsAll pending = false) :
    ∃ last, ofArguments pending parts.flatten = .ok (clauses.flatMap Clause.items, last) ∧
      ∀ name ∈ last, pending = some name ∨ valuesOf (clauses.flatMap Clause.items) name ≠ [] := by
  -- what is pending between two clauses is at most an option that repeats
  induction hparts generalizing pending with
  | nil => exact ⟨pending, rfl, fun name h => Or.inl h⟩
  | @cons c part rest parts hpart hparts ih =>
    obtain ⟨hc, hrest⟩ := List.forall_mem_cons.1 hfits
    obtain ⟨last, hread, hlast⟩ := ih hrest (claimsAll_pendingAfter c.name)
    refine ⟨last, ?_, fun name hname => Or.inr ?_⟩
    · rw [List.flatten_cons, ofArguments_clause hc hpart hp, hread]
      rfl
    · rw [List.flatMap_cons, valuesOf_append]
      rcases hlast name hname with h | h
      · exact List.append_ne_nil_of_left_ne_nil (valuesOf_items_of_pendingAfter hc h) _
      · exact List.append_ne_nil_of_right_ne_nil _ h

end Item

/-! ## Values read back -/

theorem millisOfArgument_signedText (time : Int64) :
    millisOfArgument (Decimal.signedText time.toInt) = .ok time := by
  rw [millisOfArgument, Decimal.readInt64_signedText]

namespace Item

section
variable {α : Type} {items : List Item} {name : OptionName} {read : String → Except ValueFault α}
  {write : α → String}

theorem readAll_written {values : List α} (hread : ∀ a ∈ values, read (write a) = .ok a) :
    readAll name read (values.map write) = .ok values := by
  induction values with
  | nil => rfl
  | cons a rest ih =>
    obtain ⟨ha, hrest⟩ := List.forall_mem_cons.1 hread
    rw [List.map_cons, readAll, ha, ih hrest]
    rfl

/-- Values that were written are collected, if there are no more of them than
    the option takes. -/
theorem many_of_written {values : List α} (hvalues : valuesOf items name = values.map write)
    (htimes : timesGiven items name = values.length)
    (hread : ∀ a ∈ values, read (write a) = .ok a)
    (hcount : name.repeats = false → values.length ≤ 1) : many items name read = .ok values := by
  have hnone : ¬ (timesGiven items name ≠ 0 ∧ valuesOf items name = []) := by
    rintro ⟨hgiven, hempty⟩
    rw [hvalues, List.map_eq_nil_iff] at hempty
    exact hgiven (by rw [htimes, hempty, List.length_nil])
  have honce : ¬ (name.repeats = false ∧ 1 < timesGiven items name) := by
    rintro ⟨hsingle, hmore⟩
    have := hcount hsingle
    omega
  rw [many, if_neg hnone, hvalues, readAll_written hread]
  simp only [if_neg honce]

theorem single_of_written {value? : Option α}
    (hvalues : valuesOf items name = value?.toList.map write)
    (htimes : timesGiven items name = value?.toList.length)
    (hread : ∀ a, read (write a) = .ok a) : single items name read = .ok value? := by
  have hcount : value?.toList.length ≤ 1 := by cases value? <;> simp
  rw [single, many_of_written hvalues htimes (fun a _ => hread a) fun _ => hcount]
  cases value? <;> rfl

theorem flag_of_timesGiven {b : Bool} (h : timesGiven items name = if b then 1 else 0) :
    flag items name = .ok b := by
  cases b <;> simp [flag, h]

end

end Item

/-! ## From clauses to a draft -/

namespace Draft

/-- The items hold what the draft uses. -/
structure Collects (items : List Item) (draft : Draft) : Prop where
  values : ∀ name, Item.valuesOf items name = (draft.uses name).reduceOption
  times : ∀ name, Item.timesGiven items name = (draft.uses name).length

theorem fits_clauses {draft : Draft} (h : draft.Writable) : ∀ c ∈ draft.clauses, c.Fits := by
  intro c hc
  obtain ⟨name, -, hc⟩ := List.mem_flatMap.1 hc
  obtain ⟨value, hvalue, rfl⟩ := List.mem_map.1 hc
  cases name with
  | property =>
    obtain ⟨p, hp, rfl⟩ := List.mem_map.1 hvalue
    obtain ⟨hname, -, hdash⟩ := h.properties p hp
    refine ⟨rfl, ?_⟩
    rintro _ ⟨⟩
    refine Or.inr ?_
    rcases hlist : p.name.toList with _ | ⟨c, rest⟩
    · exact absurd (String.toList_eq_nil_iff.1 hlist) hname
    · simpa [hlist] using hdash
  | expiresIn | expiresAt =>
    obtain ⟨time, -, rfl⟩ := List.mem_map.1 hvalue
    exact ⟨rfl, fun _ _ => Or.inl rfl⟩
  | stampCreationTime | security =>
    simp only [uses] at hvalue
    split_ifs at hvalue
    · obtain rfl := List.mem_singleton.1 hvalue
      exact ⟨rfl, nofun⟩
    · cases hvalue
  | _ =>
    obtain ⟨text, htext, rfl⟩ := List.mem_map.1 hvalue
    refine ⟨rfl, ?_⟩
    rintro _ ⟨⟩
    exact Or.inr (h.texts _ text (Option.mem_toList.1 htext))

theorem length_uses_le (draft : Draft) {name : OptionName} (h : name ≠ .property) :
    (draft.uses name).length ≤ 1 := by
  cases name with
  | property => exact absurd rfl h
  | stampCreationTime | security =>
    rw [uses]
    split_ifs <;> simp
  | _ => exact (List.length_map _).trans_le Option.length_toList_le

/-- The clauses of an option are its uses. -/
theorem filter_clauses (draft : Draft) (name : OptionName) :
    draft.clauses.filter (·.name = name) = (draft.uses name).map (⟨name, ·⟩) := by
  have hblock (other : OptionName) :
      ((draft.uses other).map (Clause.mk other)).filter (·.name = name) =
        if other = name then (draft.uses name).map (Clause.mk name) else [] := by
    split_ifs with h
    · subst h
      exact List.filter_eq_self.2 (by simp)
    · exact List.filter_eq_nil_iff.2 (by simp [h])
  -- each option has one block of clauses, and the others are filtered out
  rw [clauses, List.filter_flatMap]
  simp only [hblock]
  cases name <;> simp [OptionName.all]

/-- A rearrangement of at most one element is none. -/
theorem eq_of_perm_of_length_le_one {α : Type} {a b : List α} (h : a.Perm b) (hb : b.length ≤ 1) :
    a = b := by
  rcases b with _ | ⟨x, _ | ⟨y, rest⟩⟩
  · exact h.eq_nil
  · exact List.perm_singleton.1 h
  · simp at hb

/-- In every order in which properties keep theirs, each option has the same
    clauses. -/
theorem filter_clauses_of_perm {draft : Draft} {clauses : List Clause}
    (hperm : clauses.Perm draft.clauses)
    (hprops : clauses.filter (·.name = .property) = draft.clauses.filter (·.name = .property))
    (name : OptionName) :
    clauses.filter (·.name = name) = (draft.uses name).map (⟨name, ·⟩) := by
  by_cases h : name = .property
  · rw [h, hprops, filter_clauses]
  · -- with at most one clause there is nothing to rearrange
    have hfilter := hperm.filter (·.name = name)
    rw [filter_clauses] at hfilter
    exact eq_of_perm_of_length_le_one hfilter
      ((List.length_map _).trans_le (draft.length_uses_le h))

theorem collects_of_filter {draft : Draft} {clauses : List Clause}
    (h : ∀ name, clauses.filter (·.name = name) = (draft.uses name).map (⟨name, ·⟩)) :
    Collects (clauses.flatMap Clause.items) draft where
  values name := by
    rw [Item.valuesOf_clauses, h, List.map_map]
    exact congrArg List.reduceOption (List.map_id _)
  times name := by
    rw [Item.timesGiven_clauses, h, List.length_map]

section
variable {items : List Item} {draft : Draft} (h : Collects items draft)
include h

theorem single_of_collects {α : Type} {name : OptionName} {read : String → Except ValueFault α}
    {write : α → String} {value? : Option α}
    (huses : draft.uses name = value?.toList.map fun a => some (write a))
    (hread : ∀ a, read (write a) = .ok a) : Item.single items name read = .ok value? := by
  refine Item.single_of_written ?_ ?_ hread
  · rw [h.values, huses]
    cases value? <;> rfl
  · rw [h.times, huses, List.length_map]

theorem properties_of_collects (hdraft : draft.Writable) :
    Item.many items .property Property.ofArgument = .ok draft.properties := by
  let write (p : Property) : String := p.name ++ "=" ++ p.value
  have hvalues : Item.valuesOf items .property = draft.properties.map write := by
    rw [h.values, uses, List.reduceOption, List.filterMap_map]
    exact congrFun List.filterMap_eq_map draft.properties
  have htimes : Item.timesGiven items .property = draft.properties.length := by
    rw [h.times, uses, List.length_map]
  refine Item.many_of_written hvalues htimes (fun p hp => ?_) nofun
  obtain ⟨hname, heq, -⟩ := hdraft.properties p hp
  exact Property.ofArgument_of_spelledBy ⟨hname, heq, rfl⟩

theorem flag_of_collects (name : OptionName) {b : Bool}
    (huses : draft.uses name = if b then [none] else []) : Item.flag items name = .ok b := by
  refine Item.flag_of_timesGiven ?_
  rw [h.times, huses]
  cases b <;> rfl

/-- **The draft is collected from the items that hold its uses.** -/
theorem ofItems_of_collects (hdraft : draft.Writable) : ofItems items = .ok draft := by
  have text (name : OptionName)
      (huses : draft.uses name = (draft.textOf? name).toList.map fun text => some text) :
      Item.single items name .ok = .ok (draft.textOf? name) :=
    single_of_collects h huses fun _ => rfl
  have time (name : OptionName) {time? : Option Int64}
      (huses : draft.uses name =
        time?.toList.map fun time => some (Decimal.signedText time.toInt)) :
      Item.single items name millisOfArgument = .ok time? :=
    single_of_collects h huses millisOfArgument_signedText
  rw [ofItems, text .text rfl, text .base64 rfl, properties_of_collects h hdraft,
    text .messageId rfl, text .correlationId rfl, text .contentType rfl,
    text .contentEncoding rfl, text .outputName rfl, text .component rfl, text .device rfl,
    text .onDevice rfl, time .expiresIn rfl, time .expiresAt rfl,
    flag_of_collects h .stampCreationTime rfl, flag_of_collects h .security rfl]
  rfl

end

/-! ## From arguments to a draft -/

/-- **The order of options does not matter.**  Arguments that write a draft out
    describe this draft, in whatever order and spelling they name the options;
    so they all come to the same message, or to the same fault, and log the
    same. -/
theorem ofArguments_of_writtenAs {draft : Draft} (hdraft : draft.Writable) {args : List String}
    (hargs : draft.WrittenAs args) :
    ofArguments args = .ok draft ∧
      ∀ s, (ofArguments args).map (compose · s) = .ok (draft.compose s) := by
  obtain ⟨clauses, parts, hperm, hprops, hparts, rfl⟩ := hargs
  have hfits : ∀ c ∈ clauses, c.Fits := fun c hc => fits_clauses hdraft c (hperm.mem_iff.1 hc)
  have hnone : Item.claimsAll none = false := rfl
  obtain ⟨last, hread, hlast⟩ := Item.ofArguments_parts hfits hparts hnone
  have hpending : Item.checkPending (clauses.flatMap Clause.items) last = .ok () := by
    rcases last with _ | name
    · rfl
    · exact if_neg ((hlast name rfl).resolve_left nofun)
  have hcollects := collects_of_filter (filter_clauses_of_perm hperm hprops)
  have hdescribes : ofArguments parts.flatten = .ok draft := by
    rw [ofArguments, hread]
    simp only [bind, Except.bind, hpending]
    exact ofItems_of_collects hcollects hdraft
  exact ⟨hdescribes, fun s => by rw [hdescribes]; rfl⟩

/-- Arguments out of order, with a property that is set twice, both ways to spell
    options, an equals sign and a dash in values, an empty text and a time below
    zero. -/
theorem ofArguments_out_of_order :
    let draft : Draft :=
      { text := some ""
        properties := [⟨"k", "v=w"⟩, ⟨"k", "-"⟩]
        device := some "pump"
        onDevice := some "a b"
        expiresIn := some (-5)
        security := true }
    let args := ["-P", "k=v=w", "--expires-in-ms", "-5", "--security", "-m", "a b", "--property",
      "k=-", "--device", "pump", "--text", ""]
    draft.Writable ∧ draft.WrittenAs args ∧ ofArguments args = .ok draft ∧
      ∀ s, (ofArguments args).map (compose · s) = .ok (draft.compose s) := by
  intro draft args
  have hdraft : draft.Writable := ⟨by intro name; cases name <;> decide, by decide⟩
  have hargs : draft.WrittenAs args := by
    refine ⟨[⟨.property, some "k=v=w"⟩, ⟨.expiresIn, some "-5"⟩, ⟨.security, none⟩,
      ⟨.onDevice, some "a b"⟩, ⟨.property, some "k=-"⟩, ⟨.device, some "pump"⟩, ⟨.text, some ""⟩],
      [["-P", "k=v=w"], ["--expires-in-ms", "-5"], ["--security"], ["-m", "a b"],
        ["--property", "k=-"], ["--device", "pump"], ["--text", ""]],
      by decide +kernel, by decide +kernel, ?_, rfl⟩
    exact .cons ⟨"-P", by decide +kernel, rfl⟩ <|
      .cons ⟨"--expires-in-ms", by decide +kernel, rfl⟩ <|
      .cons ⟨"--security", by decide +kernel, rfl⟩ <|
      .cons ⟨"-m", by decide +kernel, rfl⟩ <|
      .cons ⟨"--property", by decide +kernel, rfl⟩ <|
      .cons ⟨"--device", by decide +kernel, rfl⟩ <|
      .cons ⟨"--text", by decide +kernel, rfl⟩ .nil
  exact ⟨hdraft, hargs, ofArguments_of_writtenAs hdraft hargs⟩

end Draft

end DeviceMail
