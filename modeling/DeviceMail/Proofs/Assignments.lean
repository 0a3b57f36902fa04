/-
  DeviceMail — what assignments leave of properties.

  `Properties.set` takes away the first property of a name and appends, and
  `Properties.get?` finds the first one, so both do what they should only while
  no name stands twice.

  * `Distinct` says that of properties; `distinct_set` and `distinct_setAll`:
    assignments keep it so;
  * `lastOfEach ops` are the assignments that no later one overrides, and
    `lastValue ops name` is the value of the last assignment to a name;
  * `toList_setAll`: assignments leave the properties that they do not name, and
    after these the last assignment to each name;
  * `history_then_assignments`: the same for everything that assignments can
    build up, with what can be read from it.
-/
import DeviceMail.Property
import Mathlib.Data.Finset.Card

namespace DeviceMail.Properties

/-! ## Names and last assignments -/

/-- The names of properties, in order. -/
def names (list : List Property) : List String := list.map (·.name)

/-- The assignments whose name does not come again, in order. -/
def lastOfEach : List Property → List Property
  | [] => []
  | first :: rest =>
    if first.name ∈ names rest then lastOfEach rest else first :: lastOfEach rest

/-- The value of the last assignment to a name. -/
def lastValue (ops : List Property) (name : String) : Option String :=
  (ops.findRev? (·.hasName name)).map (·.value)

/-- No name stands twice. -/
def Distinct (props : Properties) : Prop := (names props.toList).Nodup

theorem distinct_empty : empty.Distinct := List.nodup_nil

@[simp] theorem names_nil : names [] = [] := rfl

@[simp] theorem names_cons (p : Property) (rest : List Property) :
    names (p :: rest) = p.name :: names rest := rfl

@[simp] theorem names_append (a b : List Property) : names (a ++ b) = names a ++ names b :=
  List.map_append

theorem mem_names {list : List Property} {name : String} :
    name ∈ names list ↔ ∃ p ∈ list, p.name = name := List.mem_map

@[simp] theorem hasName_iff {p : Property} {name : String} : p.hasName name ↔ p.name = name := by
  simp [Property.hasName]

theorem lastOfEach_sublist : ∀ ops : List Property, (lastOfEach ops).Sublist ops
  | [] => List.Sublist.slnil
  | first :: rest => by
    rw [lastOfEach]
    split_ifs with h
    · exact (lastOfEach_sublist rest).cons _
    · exact (lastOfEach_sublist rest).cons_cons _

theorem mem_names_lastOfEach {name : String} : ∀ {ops : List Property},
    name ∈ names (lastOfEach ops) ↔ name ∈ names ops
  | [] => Iff.rfl
  | first :: rest => by
    have ih := @mem_names_lastOfEach name rest
    rw [lastOfEach, names_cons, List.mem_cons]
    split_ifs with h
    · rw [ih]
      constructor
      · exact Or.inr
      · rintro (rfl | hr)
        · exact h
        · exact hr
    · rw [names_cons, List.mem_cons, ih]

theorem names_nodup_lastOfEach : ∀ ops : List Property, (names (lastOfEach ops)).Nodup
  | [] => List.nodup_nil
  | first :: rest => by
    rw [lastOfEach]
    split_ifs with h
    · exact names_nodup_lastOfEach rest
    · rw [names_cons, List.nodup_cons]
      exact ⟨fun hm => h (mem_names_lastOfEach.1 hm), names_nodup_lastOfEach rest⟩

theorem lastValue_append_singleton (ops : List Property) (p : Property) (name : String) :
    lastValue (ops ++ [p]) name = if p.name = name then some p.value else lastValue ops name := by
  rw [lastValue, List.findRev?_eq_find?_reverse, List.reverse_concat]
  split_ifs with h
  · simp [hasName_iff.2 h]
  · simp [lastValue, mt hasName_iff.1 h]

/-! ## One assignment -/

/-- While no name stands twice, the first property of a name is the only one. -/
theorem eraseP_eq_filter {list : List Property} (h : (names list).Nodup) (name : String) :
    list.eraseP (·.hasName name) = list.filter (fun p => p.name ≠ name) := by
  induction list with
  | nil => rfl
  | cons p rest ih =>
    rw [names_cons, List.nodup_cons] at h
    by_cases hp : p.name = name
    · have hrest : ∀ q ∈ rest, q.name ≠ name := fun q hq he =>
        h.1 (mem_names.2 ⟨q, hq, he.trans hp.symm⟩)
      rw [List.eraseP_cons, hasName_iff.2 hp, cond_true, List.filter_cons_of_neg (by simp [hp])]
      exact (List.filter_eq_self.2 fun q hq => by simpa using hrest q hq).symm
    · rw [List.eraseP_cons, eq_false_of_ne_true (mt hasName_iff.1 hp), cond_false,
        List.filter_cons_of_pos (by simp [hp]), ih h.2]

theorem toList_set {props : Properties} (h : props.Distinct) (p : Property) :
    (props.set p).toList = props.toList.filter (fun q => q.name ≠ p.name) ++ [p] := by
  rw [set, eraseP_eq_filter h]

theorem distinct_set {props : Properties} (h : props.Distinct) (p : Property) :
    (props.set p).Distinct := by
  rw [Distinct, toList_set h, names_append, List.nodup_append]
  refine ⟨(List.filter_sublist.map _).nodup h, List.nodup_singleton _, ?_⟩
  rintro name hn _ hp rfl
  obtain ⟨q, hq, rfl⟩ := mem_names.1 hn
  have hne := (List.mem_filter.1 hq).2
  rw [names_cons, names_nil, List.mem_singleton] at hp
  simp [hp] at hne

theorem mem_names_set {props : Properties} (h : props.Distinct) (p : Property)
    (name : String) :
    name ∈ names (props.set p).toList ↔ name = p.name ∨ name ∈ names props.toList := by
  rw [toList_set h]
  simp only [mem_names, List.mem_append, List.mem_filter, List.mem_singleton]
  constructor
  · rintro ⟨q, ⟨hq, -⟩ | rfl, rfl⟩
    · exact Or.inr ⟨q, hq, rfl⟩
    · exact Or.inl rfl
  · rintro (rfl | ⟨q, hq, rfl⟩)
    · exact ⟨p, Or.inr rfl, rfl⟩
    · by_cases hp : q.name = p.name
      · exact ⟨p, Or.inr rfl, hp.symm⟩
      · exact ⟨q, Or.inl ⟨hq, by simpa using hp⟩, rfl⟩

/-- While no name stands twice, what is found under a name is all there is. -/
theorem get?_eq_some_iff {props : Properties} (h : props.Distinct)
    (name value : String) : props.get? name = some value ↔ ⟨name, value⟩ ∈ props.toList := by
  obtain ⟨list⟩ := props
  simp only [get?]
  induction list with
  | nil => simp
  | cons p rest ih =>
    obtain ⟨pname, pvalue⟩ := p
    rw [Distinct, names_cons, List.nodup_cons] at h
    have ih := ih h.2
    by_cases hp : pname = name
    · subst hp
      have hrest : ⟨pname, value⟩ ∉ rest := fun hm => h.1 (mem_names.2 ⟨_, hm, rfl⟩)
      simp [Property.hasName, hrest, eq_comm]
    · have hne : (⟨name, value⟩ : Property) ≠ ⟨pname, pvalue⟩ := by
        rintro ⟨⟩
        exact hp rfl
      have hn : (⟨pname, pvalue⟩ : Property).hasName name = false :=
        eq_false_of_ne_true (mt hasName_iff.1 hp)
      rw [List.find?_cons, hn, ih, List.mem_cons]
      exact ⟨Or.inr, fun hm => hm.resolve_left hne⟩

theorem get?_set {props : Properties} (h : props.Distinct) (p : Property)
    (name : String) :
    (props.set p).get? name = if p.name = name then some p.value else props.get? name := by
  ext value
  rw [get?_eq_some_iff (distinct_set h p), toList_set h]
  simp only [List.mem_append, List.mem_filter, List.mem_singleton]
  split_ifs with hp
  · subst hp
    constructor
    · rintro (⟨-, hne⟩ | he)
      · simp at hne
      · rw [← he]
    · rintro ⟨⟩
      exact Or.inr rfl
  · rw [get?_eq_some_iff h]
    constructor
    · rintro (⟨hm, -⟩ | rfl)
      · exact hm
      · exact absurd rfl hp
    · exact fun hm => Or.inl ⟨hm, by simpa using Ne.symm hp⟩

/-! ## Assignments in a row -/

@[simp] theorem setAll_nil (props : Properties) : props.setAll [] = props := rfl

@[simp] theorem setAll_cons (props : Properties) (p : Property) (ops : List Property) :
    props.setAll (p :: ops) = (props.set p).setAll ops := rfl

theorem setAll_append (props : Properties) (a b : List Property) :
    props.setAll (a ++ b) = (props.setAll a).setAll b := List.foldl_append

theorem distinct_setAll {props : Properties} (h : props.Distinct)
    (ops : List Property) : (props.setAll ops).Distinct := by
  induction ops generalizing props with
  | nil => exact h
  | cons p ops ih => exact ih (distinct_set h p)

/-- **Assignments keep the properties that they do not name and put the last
    assignment to each name after them.** -/
theorem toList_setAll {props : Properties} (h : props.Distinct)
    (ops : List Property) :
    (props.setAll ops).toList =
      props.toList.filter (fun p => p.name ∉ names ops) ++ lastOfEach ops := by
  induction ops generalizing props with
  | nil => simp [lastOfEach]
  | cons p ops ih =>
    rw [setAll_cons, ih (distinct_set h p), toList_set h, List.filter_append,
      List.filter_filter, List.append_assoc]
    congr 1
    · refine List.filter_congr fun q _ => ?_
      simp only [List.mem_cons, not_or, names_cons, Bool.decide_and, Bool.and_comm]
    · -- the assignment itself stays unless its name comes again
      rw [lastOfEach]
      split_ifs with hp
      · simp [hp]
      · simp [hp]

theorem toList_setAll_empty (ops : List Property) : (empty.setAll ops).toList = lastOfEach ops := by
  rw [toList_setAll distinct_empty]
  rfl

example : (empty.setAll [⟨"a", "1"⟩, ⟨"b", "2"⟩, ⟨"a", "1"⟩]).toList = [⟨"b", "2"⟩, ⟨"a", "1"⟩] :=
  rfl

/-! ## Histories -/

theorem mem_names_setAll {props : Properties} (h : props.Distinct)
    (ops : List Property) (name : String) :
    name ∈ names (props.setAll ops).toList ↔ name ∈ names props.toList ∨ name ∈ names ops := by
  induction ops generalizing props with
  | nil => simp
  | cons p ops ih =>
    rw [setAll_cons, ih (distinct_set h p), mem_names_set h, names_cons, List.mem_cons]
    tauto

/-- There are as many properties as names were ever assigned. -/
theorem size_setAll_empty (history : List Property) :
    (empty.setAll history).size = (names history).toFinset.card := by
  have hnodup : (names (empty.setAll history).toList).Nodup :=
    distinct_setAll distinct_empty history
  have hnames : (names (empty.setAll history).toList).toFinset = (names history).toFinset := by
    ext name
    rw [List.mem_toFinset, mem_names_setAll distinct_empty, List.mem_toFinset]
    simp [empty]
  rw [← hnames, List.toFinset_card_of_nodup hnodup, names, List.length_map, size]

theorem get?_setAll_empty (history : List Property) (name : String) :
    (empty.setAll history).get? name = lastValue history name := by
  induction history using List.reverseRecOn with
  | nil => rfl
  | append_singleton history p ih =>
    rw [setAll_append, setAll_cons, setAll_nil,
      get?_set (distinct_setAll distinct_empty history), lastValue_append_singleton, ih]

/-- What is left of assignments are the last values of the names. -/
theorem mem_lastOfEach_iff (ops : List Property) (name value : String) :
    ⟨name, value⟩ ∈ lastOfEach ops ↔ lastValue ops name = some value := by
  rw [← toList_setAll_empty, ← get?_setAll_empty,
    get?_eq_some_iff (distinct_setAll distinct_empty ops)]

/-- **Properties after a history of assignments, and after more of them.**  The
    further assignments leave the properties that they do not name, in their
    order, and then the last assignment to each name, in the order in which
    these were made.  No name stands twice, there are as many properties as
    names were ever assigned, and under each name the value is the one that was
    assigned last. -/
theorem history_then_assignments (history ops : List Property) :
    let props := empty.setAll history
    (props.setAll ops).toList =
        props.toList.filter (fun p => p.name ∉ names ops) ++ lastOfEach ops ∧
      ((lastOfEach ops).Sublist ops ∧ (names (lastOfEach ops)).Nodup ∧
        ∀ name value, ⟨name, value⟩ ∈ lastOfEach ops ↔ lastValue ops name = some value) ∧
      props.Distinct ∧
      props.size = (names history).toFinset.card ∧
      (∀ name value, props.get? name = some value ↔ ⟨name, value⟩ ∈ props.toList) ∧
      ∀ name, props.get? name = lastValue history name := by
  intro props
  have hdistinct : props.Distinct := distinct_setAll distinct_empty history
  refine ⟨toList_setAll hdistinct ops, ?_, hdistinct, size_setAll_empty history,
    get?_eq_some_iff hdistinct, get?_setAll_empty history⟩
  exact ⟨lastOfEach_sublist ops, names_nodup_lastOfEach ops, mem_lastOfEach_iff ops⟩

end DeviceMail.Properties
