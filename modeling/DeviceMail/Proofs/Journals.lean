/-
  DeviceMail — what a journal tells of what was written to it.

  Several parts of a program write to one journal, and between two records it may
  be read.

  * `Access` is a record written or a question, and `Journal.accessAll` answers
    accesses in any order;
  * `occursIn_iff` and `Journal.mentioning_eq`: the search for a text finds it
    wherever it stands, and nowhere else;
  * `Access.answer` says what an access is answered with, from what was written
    before it, and `Journal.answer_accessAll` that this is the answer;
  * `journal_answers_exactly`: no record is lost, invented or moved.
-/
import DeviceMail.Log
import Mathlib.Data.List.Infix
import Mathlib.Data.List.Perm.Basic

namespace DeviceMail

/-! ## Search -/

theorem occursIn_iff {needle text : List Char} : occursIn needle text ↔ needle <:+: text := by
  induction text with
  | nil => rw [occursIn, List.isEmpty_iff, List.infix_nil]
  | cons c rest ih =>
    rw [occursIn, Bool.or_eq_true, List.isPrefixOf_iff_prefix, ih, List.infix_cons_iff]

/-- The message of the record has the text somewhere in it. -/
def Record.Mentions (record : Record) (needle : String) : Prop :=
  ∃ before after, record.message = before ++ needle ++ after

namespace Record

variable {record : Record} {needle : String}

theorem mentions_iff : record.Mentions needle ↔ needle.toList <:+: record.message.toList := by
  constructor
  · rintro ⟨before, after, h⟩
    exact ⟨before.toList, after.toList, by simp [h]⟩
  · rintro ⟨before, after, h⟩
    exact ⟨.ofList before, .ofList after, by simp [← String.toList_inj, ← h]⟩

instance : Decidable (record.Mentions needle) := decidable_of_iff' _ mentions_iff

theorem mentions_empty : record.Mentions "" := ⟨"", record.message, by simp⟩

/-- What mentions a text mentions each part of it. -/
theorem Mentions.part {before after : String} (h : record.Mentions (before ++ needle ++ after)) :
    record.Mentions needle := by
  rw [mentions_iff] at h ⊢
  refine List.IsInfix.trans ?_ h
  simp only [String.toList_append]
  exact List.infix_append ..

end Record

namespace Journal

/-- **The search finds the records that mention the text**, and no others. -/
theorem mentioning_eq (journal : Journal) (level : Level) (needle : String) :
    journal.mentioning level needle =
      journal.records.filter fun record => record.level = level ∧ record.Mentions needle := by
  refine List.filter_congr fun record _ => ?_
  rw [Bool.eq_iff_iff, Bool.and_eq_true, beq_iff_eq, occursIn_iff, decide_eq_true_iff,
    Record.mentions_iff]

end Journal

/-! ## Accesses -/

/-- What may be done to a journal. -/
inductive Access where
  | write (record : Record)
  | readAll
  | search (level : Level) (needle : String)
  deriving DecidableEq, Repr

namespace Access

/-- What an access writes. -/
def written : Access → List Record
  | .write record => [record]
  | .readAll | .search .. => []

/-- What is answered where `records` have been written so far. -/
def answer (records : List Record) : Access → Option (List Record)
  | .write _ => none
  | .readAll => some records
  | .search level needle =>
    some (records.filter fun record => record.level = level ∧ record.Mentions needle)

end Access

namespace Journal

/-- The journal after an access, and the records with which it is answered. -/
def access (journal : Journal) : Access → Journal × Option (List Record)
  | .write record => (journal.write record, none)
  | .readAll => (journal, some journal.records)
  | .search level needle => (journal, some (journal.mentioning level needle))

/-- The journal after accesses in order, and the answer to each. -/
def accessAll (journal : Journal) : List Access → Journal × List (Option (List Record))
  | [] => (journal, [])
  | a :: rest =>
    let (journal, answer) := journal.access a
    let (journal, answers) := accessAll journal rest
    (journal, answer :: answers)

theorem accessAll_cons (journal : Journal) (a : Access) (rest : List Access) :
    journal.accessAll (a :: rest) =
      (((journal.access a).1.accessAll rest).1,
        (journal.access a).2 :: ((journal.access a).1.accessAll rest).2) := rfl

/-- **An access appends what it writes**, and nothing else. -/
theorem records_access (journal : Journal) (a : Access) :
    (journal.access a).1.records = journal.records ++ a.written := by
  cases a with
  | write record => rfl
  | readAll => exact (List.append_nil _).symm
  | search level needle => exact (List.append_nil _).symm

theorem answer_access (journal : Journal) (a : Access) :
    (journal.access a).2 = a.answer journal.records := by
  cases a with
  | write record => rfl
  | readAll => rfl
  | search level needle => exact congrArg some (journal.mentioning_eq level needle)

/-- **Accesses append what they write**, in order. -/
theorem records_accessAll (journal : Journal) (accesses : List Access) :
    (journal.accessAll accesses).1.records =
      journal.records ++ accesses.flatMap Access.written := by
  induction accesses generalizing journal with
  | nil => exact (List.append_nil _).symm
  | cons a rest ih =>
    rw [accessAll_cons, ih, records_access, List.append_assoc, List.flatMap_cons]

theorem length_answers (journal : Journal) (accesses : List Access) :
    (journal.accessAll accesses).2.length = accesses.length := by
  induction accesses generalizing journal with
  | nil => rfl
  | cons a rest ih => rw [accessAll_cons, List.length_cons, ih, List.length_cons]

/-- **An access is answered from what was written before it**, whatever is done
    between these records and after the access. -/
theorem answer_accessAll (journal : Journal) (before : List Access) (a : Access)
    (after : List Access) :
    (journal.accessAll (before ++ a :: after)).2[before.length]? =
      some (a.answer (journal.records ++ before.flatMap Access.written)) := by
  induction before generalizing journal with
  | nil =>
    rw [List.nil_append, accessAll_cons, answer_access, List.flatMap_nil, List.append_nil]
    rfl
  | cons first rest ih =>
    -- The rest starts from a journal that holds what the first access wrote.
    rw [List.cons_append, accessAll_cons, List.length_cons, List.getElem?_cons_succ, ih,
      records_access, List.append_assoc, List.flatMap_cons]

/-- Records that are written together are written one after the other. -/
theorem writeAll_eq (journal : Journal) (records : List Record) :
    journal.writeAll records = (journal.accessAll (records.map .write)).1 := by
  have hrecords := journal.records_accessAll (records.map .write)
  have hwritten : (records.map .write).flatMap Access.written = records := by
    rw [List.flatMap_map]
    exact List.flatMap_singleton' records
  rw [hwritten] at hrecords
  exact congrArg Journal.mk hrecords.symm

/-! ## Levels -/

theorem count_mentioning_empty (journal : Journal) (level : Level) (record : Record) :
    (journal.mentioning level "").count record =
      if record.level = level then journal.records.count record else 0 := by
  rw [mentioning_eq]
  split_ifs with hlevel
  · exact List.count_filter (by simp [hlevel, Record.mentions_empty])
  · exact List.count_eq_zero.2 (by simp [hlevel])

/-- **Each record is at one level**, so the levels share out the records. -/
theorem flatMap_mentioning_perm (journal : Journal) :
    (Level.all.flatMap fun level => journal.mentioning level "").Perm journal.records := by
  rw [List.perm_iff_count]
  intro record
  rw [List.count_flatMap, Function.comp_def]
  simp only [count_mentioning_empty, Level.all]
  -- Of the counts only that at the level of the record is not zero.
  cases record.level <;> simp

theorem mentioning_disjoint (journal : Journal) {level other : Level} (hne : level ≠ other)
    (needle needle' : String) :
    (journal.mentioning level needle).Disjoint (journal.mentioning other needle') := by
  intro record hfirst hsecond
  simp only [mentioning_eq, List.mem_filter, decide_eq_true_iff] at hfirst hsecond
  exact hne (hfirst.2.1.symm.trans hsecond.2.1)

/-- A longer text is mentioned by fewer records. -/
theorem mentioning_sublist (journal : Journal) (level : Level) (before needle after : String) :
    (journal.mentioning level (before ++ needle ++ after)).Sublist
      (journal.mentioning level needle) := by
  simp only [mentioning_eq]
  refine List.monotone_filter_right _ fun record h => ?_
  simp only [decide_eq_true_iff] at h ⊢
  exact ⟨h.1, h.2.part⟩

end Journal

/-! ## Exact answers -/

/-- **A journal answers exactly.**  Whatever is done to a new journal in whatever
    order, it holds the records that were written, each as often as it was and in
    the order in which they were, and an access is answered from those written
    before it: a search with the ones at its level that mention its text.  So the
    searches for the empty text at the five levels share out the records, and a
    search for a longer text finds a part of what one for a shorter text finds, in
    the same order. -/
theorem journal_answers_exactly :
    (∀ accesses : List Access,
      (({} : Journal).accessAll accesses).1.records = accesses.flatMap Access.written ∧
      (({} : Journal).accessAll accesses).2.length = accesses.length) ∧
    (∀ (before : List Access) (a : Access) (after : List Access),
      (({} : Journal).accessAll (before ++ a :: after)).2[before.length]? =
        some (a.answer (before.flatMap Access.written))) ∧
    (∀ journal : Journal,
      (Level.all.flatMap fun level => journal.mentioning level "").Perm journal.records ∧
      Level.all.Pairwise fun level other =>
        (journal.mentioning level "").Disjoint (journal.mentioning other "")) ∧
    ∀ (journal : Journal) (level : Level) (before needle after : String),
      (journal.mentioning level (before ++ needle ++ after)).Sublist
        (journal.mentioning level needle) := by
  refine ⟨fun accesses => ⟨?_, Journal.length_answers _ accesses⟩, Journal.answer_accessAll _,
    fun journal => ⟨journal.flatMap_mentioning_perm, ?_⟩, Journal.mentioning_sublist⟩
  · exact Journal.records_accessAll _ accesses
  · have hlevels : Level.all.Pairwise (· ≠ ·) := by decide
    exact hlevels.imp fun hne => journal.mentioning_disjoint hne "" ""

end DeviceMail
