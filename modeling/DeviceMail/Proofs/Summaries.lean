/-
  DeviceMail — what the summary of a message tells.

  A summary shows the identifiers that are not empty, each behind its label and
  in brackets, and it shows them as they are.  So an identifier that holds a
  closing bracket may seem to end there, and what stands behind the bracket may
  look like the label of the other one.

  * `labelled_append_inj`: an identifier without a closing bracket is told by what
    its label stands in front of;
  * `Message.summary_eq_iff`: a summary tells both identifiers, unless one of them
    holds a closing bracket;
  * `identifiers_ambiguous_only_through_bracket`: so does the record of a message
    that was composed.
-/
import DeviceMail.Proofs.Composition
import DeviceMail.Proofs.Cuts

namespace DeviceMail

namespace Message

/-! ## Labelled identifiers -/

section
variable {label : String} {first : Char} (hlabel : label.toList.head? = some first)

theorem toList_labelled {id : String} (hid : id ≠ "") :
    (labelled label id).toList =
      (label ++ " [").toList ++ (id.toList ++ ']' :: [' ']) := by
  simp [labelled, hid]

include hlabel

/-- What is labelled begins like its label. -/
theorem head?_labelled (id : String) :
    (labelled label id).toList.head? = if id = "" then none else some first := by
  by_cases hid : id = ""
  · simp [labelled, hid]
  · rw [toList_labelled hid, if_neg hid, String.toList_append, List.append_assoc, List.head?_append,
      hlabel, Option.some_or]

/-- An empty identifier shows, as what follows does not begin like the label. -/
theorem ne_labelled_append {id : String} {s t : List Char} (hs : s.head? ≠ some first)
    (hid : id ≠ "") : s ≠ (labelled label id).toList ++ t := by
  rintro rfl
  rw [List.head?_append, head?_labelled hlabel, if_neg hid] at hs
  exact hs rfl

/-- **A labelled identifier ends at its closing bracket**, if it holds none. -/
theorem labelled_append_inj {id other : String} {s t : List Char} (hs : s.head? ≠ some first)
    (ht : t.head? ≠ some first) (hid : ']' ∉ id.toList) (hother : ']' ∉ other.toList)
    (h : (labelled label id).toList ++ s = (labelled label other).toList ++ t) :
    id = other ∧ s = t := by
  by_cases hempty : id = ""
  · by_cases hempty' : other = ""
    · subst hempty hempty'
      exact ⟨rfl, List.append_cancel_left h⟩
    · subst hempty
      exact absurd h (ne_labelled_append hlabel hs hempty')
  · by_cases hempty' : other = ""
    · subst hempty'
      exact absurd h.symm (ne_labelled_append hlabel ht hempty)
    · rw [toList_labelled hempty, toList_labelled hempty'] at h
      simp only [List.append_assoc, List.append_cancel_left_eq, List.cons_append] at h
      obtain ⟨hsame, hrest⟩ := Text.append_cons_inj_of_notMem hid hother h
      exact ⟨String.toList_inj.1 hsame, List.append_cancel_left (List.cons.inj hrest).2⟩

end

/-! ## Summaries -/

/-- An identifier of the message holds a closing bracket. -/
def HasBracket (m : Message) : Prop := ']' ∈ m.correlationId.toList ∨ ']' ∈ m.messageId.toList

theorem toList_summary (m : Message) :
    m.summary.toList = " Message details: ".toList ++
      ((labelled "Correlation Id" m.correlationId).toList ++
        ((labelled "Message Id" m.messageId).toList ++ [])) := by
  unfold summary
  rw [String.toList_append, String.toList_append, List.append_assoc, List.append_nil]

/-- **A summary tells both identifiers**, if none of them holds a closing bracket. -/
theorem summary_eq_iff {m n : Message} (hm : ¬ m.HasBracket) (hn : ¬ n.HasBracket) :
    m.summary = n.summary ↔ m.correlationId = n.correlationId ∧ m.messageId = n.messageId := by
  constructor
  · intro h
    rw [HasBracket, not_or] at hm hn
    have hcorrelation : "Correlation Id".toList.head? = some 'C' := rfl
    have hmessage : "Message Id".toList.head? = some 'M' := rfl
    have hbehind (id : String) :
        ((labelled "Message Id" id).toList ++ []).head? ≠ some 'C' := by
      rw [List.append_nil, head?_labelled hmessage]
      split_ifs <;> simp
    rw [← String.toList_inj, toList_summary, toList_summary, List.append_cancel_left_eq] at h
    obtain ⟨hfirst, hrest⟩ := labelled_append_inj hcorrelation (hbehind _) (hbehind _) hm.1 hn.1 h
    obtain ⟨hsecond, -⟩ := labelled_append_inj hmessage (by simp) (by simp) hm.2 hn.2 hrest
    exact ⟨hfirst, hsecond⟩
  · rintro ⟨hfirst, hsecond⟩
    unfold summary
    rw [hfirst, hsecond]

theorem hasBracket_of_summary_eq {m n : Message}
    (hne : (m.correlationId, m.messageId) ≠ (n.correlationId, n.messageId))
    (h : m.summary = n.summary) : m.HasBracket ∨ n.HasBracket := by
  by_contra hnone
  obtain ⟨hm, hn⟩ := not_or.1 hnone
  exact hne (Prod.ext_iff.2 ((summary_eq_iff hm hn).1 h))

end Message

/-! ## Records of messages that were composed -/

namespace Draft

/-- What composing the message of a draft leaves for debugging. -/
def debugRecords (draft : Draft) (s : Surroundings) : List Record :=
  (draft.compose s).records.filter (·.level == .debug)

/-- A message that was composed leaves one record, which holds its summary. -/
theorem debugRecords_of_compose {draft : Draft} {s : Surroundings} {m : Message}
    (h : (draft.compose s).value = .ok m) :
    draft.debugRecords s = [⟨.debug, "hubmsg_cli", "Built message " ++ m.summary⟩] := by
  obtain ⟨hfaults, rfl⟩ := (compose_eq_ok_iff m).1 h
  rw [debugRecords, compose_of_faultless hfaults, records, List.filter_append]
  cases draft.expiresIn <;> rfl

theorem debugRecords_eq_iff {draft other : Draft} {s t : Surroundings} {m n : Message}
    (hm : (draft.compose s).value = .ok m) (hn : (other.compose t).value = .ok n) :
    draft.debugRecords s = other.debugRecords t ↔ m.summary = n.summary := by
  rw [debugRecords_of_compose hm, debugRecords_of_compose hn, List.cons.injEq, Record.mk.injEq,
    String.append_right_inj]
  simp only [true_and, and_true]

end Draft

/-! ## Ambiguous identifiers -/

/-- **Identifiers are ambiguous only through closing brackets.**  Where messages
    with other identifiers have the same summary, one of these identifiers holds a
    closing bracket.  So without these a summary tells both identifiers, empty ones
    included, which are left out of it.  The same holds of what two drafts leave
    for debugging when their messages are composed, which is one record with the
    summary. -/
theorem identifiers_ambiguous_only_through_bracket :
    (∀ m n : Message, (m.correlationId, m.messageId) ≠ (n.correlationId, n.messageId) →
      m.summary = n.summary → m.HasBracket ∨ n.HasBracket) ∧
    (∀ m n : Message, ¬ m.HasBracket → ¬ n.HasBracket →
      (m.summary = n.summary ↔ m.correlationId = n.correlationId ∧ m.messageId = n.messageId)) ∧
    ∀ (draft other : Draft) (s t : Surroundings) (m n : Message),
      (draft.compose s).value = .ok m → (other.compose t).value = .ok n →
      draft.debugRecords s = [⟨.debug, "hubmsg_cli", "Built message " ++ m.summary⟩] ∧
      ((m.correlationId, m.messageId) ≠ (n.correlationId, n.messageId) →
        draft.debugRecords s = other.debugRecords t → m.HasBracket ∨ n.HasBracket) ∧
      (¬ m.HasBracket → ¬ n.HasBracket →
        (draft.debugRecords s = other.debugRecords t ↔
          m.correlationId = n.correlationId ∧ m.messageId = n.messageId)) := by
  refine ⟨fun m n => Message.hasBracket_of_summary_eq, fun m n => Message.summary_eq_iff, ?_⟩
  intro draft other s t m n hm hn
  rw [Draft.debugRecords_eq_iff hm hn]
  exact ⟨Draft.debugRecords_of_compose hm, Message.hasBracket_of_summary_eq,
    Message.summary_eq_iff⟩

/-- Two drafts whose messages leave the same record: the correlation identifier of
    one imitates the message identifier of the other. -/
theorem identifiers_ambiguous_through_imitated_label :
    let draft : Draft := { messageId := some "", correlationId := some "a] Message Id [b" }
    let other : Draft := { messageId := some "b", correlationId := some "a" }
    let s : Surroundings := ⟨5, ⟨0, 0, by decide, by decide⟩, ⟨"x", "y"⟩⟩
    ∃ m n : Message, (draft.compose s).value = .ok m ∧ (other.compose s).value = .ok n ∧
      (m.correlationId, m.messageId) ≠ (n.correlationId, n.messageId) ∧
      draft.debugRecords s = other.debugRecords s ∧ (m.HasBracket ∨ n.HasBracket) := by
  intro draft other s
  have hm : (draft.compose s).value = .ok (draft.message s) :=
    (Draft.compose_eq_ok_iff _).2 ⟨by decide, rfl⟩
  have hn : (other.compose s).value = .ok (other.message s) :=
    (Draft.compose_eq_ok_iff _).2 ⟨by decide, rfl⟩
  have hne : ((draft.message s).correlationId, (draft.message s).messageId) ≠
      ((other.message s).correlationId, (other.message s).messageId) := by decide
  have hsame : draft.debugRecords s = other.debugRecords s := by decide +kernel
  obtain ⟨-, -, hdrafts⟩ := identifiers_ambiguous_only_through_bracket
  obtain ⟨-, hbracket, -⟩ := hdrafts draft other s s _ _ hm hn
  exact ⟨_, _, hm, hn, hne, hsame, hbracket hne hsame⟩

end DeviceMail
