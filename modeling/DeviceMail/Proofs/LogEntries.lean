/-
  DeviceMail — what a run writes to the log.

  Messages write two kinds of records: one when an expiry is given as a timeout,
  one whenever they are found to have expired.

  * `Entry` is what such a record tells, `Entry.record` the record;
  * `Moment.entries` says what a step has to tell, from its answer and from the
    message as it is at that moment;
  * `records_after`: a step writes the records of its entries and no others;
  * `journal_of_run`: so does a run, in the order of its steps.
-/
import DeviceMail.Proofs.Expiries
import DeviceMail.Proofs.Moments

namespace DeviceMail

/-! ## Entries -/

/-- What a message has to tell to the log. -/
inductive Entry where
  /-- It was given a timeout, and now it expires at `expiry`. -/
  | timeoutGiven (messageId : String) (timeout expiry : Int)
  /-- It was found to have expired. -/
  | foundExpired (correlationId : String)

/-- The record of an entry. -/
def Entry.record : Entry → Record
  | .timeoutGiven messageId timeout expiry =>
    ⟨.trace, "hubmsg_envelope::messages::envelope",
      "The message with message id " ++ messageId ++ " has expiry time in " ++
        Decimal.signedText timeout ++ " milliseconds and will expire on " ++
        Decimal.signedText expiry⟩
  | .foundExpired correlationId =>
    ⟨.warn, "hubmsg_envelope::messages::envelope",
      "The message with correlation id " ++ correlationId ++ " expired"⟩

/-- Whether a message was asked if it has expired, and said yes. -/
def saysExpired : Except Refusal Answer → Bool
  | .ok (.reply (.expired true)) => true
  | _ => false

/-- What a step has to tell.  A timeout is told with the exact sum of clock and
    timeout, or the nearest 64-bit number. -/
def Moment.entries (t : Moment) : List Entry :=
  match t.step with
  | .edit slot (.expireAfter now timeout) =>
    (t.session.messages.get? slot).toList.map fun m =>
      .timeoutGiven m.messageId timeout.toInt
        (max Int64.minValue.toInt (min Int64.maxValue.toInt (now.toInt + timeout.toInt)))
  | .ask slot (.expired _) =>
    if saysExpired t.answer then
      (t.session.messages.get? slot).toList.map fun m => .foundExpired m.correlationId
    else []
  | _ => []

/-! ## One message -/

namespace Message

theorem records_expireAfter (m : Message) (now timeout : Int64) :
    (m.edit (.expireAfter now timeout)).records =
      [(Entry.timeoutGiven m.messageId timeout.toInt (max Int64.minValue.toInt
        (min Int64.maxValue.toInt (now.toInt + timeout.toInt)))).record] := by
  rw [← toInt_expiryAfter]
  rfl

theorem records_ask (m : Message) (query : Query) :
    (m.ask query).records =
      if saysExpired (.ok (.reply (m.ask query).value)) then
        [(Entry.foundExpired m.correlationId).record] else [] := by
  cases query with
  | expired now =>
    rw [ask, checkExpiry]
    cases m.hasExpired now <;> rfl
  | _ => rfl

end Message

/-! ## One step -/

namespace Session

/-- A change that is refused has nothing to log, so what the message logs is
    written in any case. -/
theorem records_step_edit (s : Session) (slot : String) (e : Edit) :
    (s.step (.edit slot e)).1.journal.records =
      s.journal.records ++ (s.messages.get? slot).toList.flatMap fun m => (m.edit e).records := by
  rcases hm : s.messages.get? slot with _ | m
  · rw [step, withMessage_of_none hm]
    exact (List.append_nil _).symm
  · rw [step, withMessage_of_get? hm, Option.toList_some, List.flatMap_singleton]
    simp only
    rcases hvalue : (m.edit e).value with fault | changed
    · rw [Message.records_edit_of_error hvalue, List.append_nil]
      rfl
    · rfl

theorem records_step_ask (s : Session) (slot : String) (query : Query) :
    (s.step (.ask slot query)).1.journal.records =
      s.journal.records ++
        (s.messages.get? slot).toList.flatMap fun m => (m.ask query).records := by
  rcases hm : s.messages.get? slot with _ | m
  · rw [step, withMessage_of_none hm]
    exact (List.append_nil _).symm
  · rw [step, withMessage_of_get? hm, Option.toList_some, List.flatMap_singleton]
    rfl

theorem answer_step_ask {s : Session} {slot : String} {m : Message}
    (hm : s.messages.get? slot = some m) (query : Query) :
    (s.step (.ask slot query)).2 = .ok (.reply (m.ask query).value) := by
  rw [step, withMessage_of_get? hm]

theorem saysExpired_step (s : Session) {a : Step} (hask : ∀ slot query, a ≠ .ask slot query) :
    saysExpired (s.step a).2 = false := by
  have hmessage {slot : String} {go : Message → Session × Except Refusal Answer}
      (h : ∀ m, saysExpired (go m).2 = false) : saysExpired (s.withMessage slot go).2 = false :=
    withMessage_ind (P := fun outcome => saysExpired outcome.2 = false) (fun _ => rfl) h
  have hsource {name : String} {go : IdSource → Session × Except Refusal Answer}
      (h : ∀ source, saysExpired (go source).2 = false) :
      saysExpired (s.withSource name go).2 = false :=
    withSource_ind (P := fun outcome => saysExpired outcome.2 = false) (fun _ => rfl) h
  cases a with
  | addSource name source => rfl
  | drawId name fresh => exact hsource fun _ => rfl
  | make slot content source fresh =>
    cases source with
    | none => rfl
    | some name => exact hsource fun _ => rfl
  | make? slot content fresh => cases content <;> rfl
  | copy slot target => exact hmessage fun _ => rfl
  | move slot target => exact hmessage fun _ => rfl
  | edit slot e =>
    refine hmessage fun m => ?_
    simp only [Message.value_edit]
    cases e.fault? <;> rfl
  | ask slot query => exact absurd rfl (hask slot query)
  | look slot => exact hmessage fun _ => rfl
  | notify slot about hook error =>
    refine hmessage fun m => hmessage fun other => ?_
    cases m.receiver <;> rfl

end Session

namespace Moment

theorem map_record_entries_edit (s : Session) (slot : String) (e : Edit) :
    (entries ⟨s, .edit slot e⟩).map Entry.record =
      (s.messages.get? slot).toList.flatMap fun m => (m.edit e).records := by
  rcases hm : s.messages.get? slot with _ | m
  · cases e <;> simp [entries, hm]
  · cases e with
    | expireAfter now timeout => simp [entries, hm, Message.records_expireAfter]
    | _ => rfl

theorem map_record_entries_ask (s : Session) (slot : String) (query : Query) :
    (entries ⟨s, .ask slot query⟩).map Entry.record =
      (s.messages.get? slot).toList.flatMap fun m => (m.ask query).records := by
  rcases hm : s.messages.get? slot with _ | m
  · cases query <;> simp [entries, hm]
  · rw [Option.toList_some, List.flatMap_singleton, Message.records_ask]
    cases query with
    | expired now =>
      simp only [entries, answer, Session.answer_step_ask hm, hm]
      split_ifs <;> rfl
    | _ => rfl

/-- **A step writes the records of its entries, and no others.** -/
theorem records_after (t : Moment) :
    t.after.journal.records = t.session.journal.records ++ t.entries.map Entry.record := by
  obtain ⟨s, a⟩ := t
  cases a with
  | edit slot e =>
    rw [map_record_entries_edit]
    exact s.records_step_edit slot e
  | ask slot query =>
    rw [map_record_entries_ask]
    exact s.records_step_ask slot query
  | make slot content source fresh =>
    rw [after, Session.step_eq_touched]
    cases source <;> exact (List.append_nil _).symm
  | _ =>
    rw [after, Session.step_eq_touched]
    exact (List.append_nil _).symm

/-- A step that is answered with yes gives one warning, and no other does. -/
theorem countP_warn_entries (t : Moment) :
    (t.entries.map Entry.record).countP (·.level == .warn) =
      if saysExpired t.answer then 1 else 0 := by
  obtain ⟨s, a⟩ := t
  have hnone {a : Step} (hask : ∀ slot query, a ≠ .ask slot query) :
      saysExpired (answer ⟨s, a⟩) = false := s.saysExpired_step hask
  cases a with
  | edit slot e =>
    rw [hnone (by rintro _ _ ⟨⟩)]
    cases e with
    | expireAfter now timeout =>
      rcases hm : s.messages.get? slot with _ | m <;> simp [entries, hm, Entry.record]
    | _ => rfl
  | ask slot query =>
    rw [map_record_entries_ask]
    rcases hm : s.messages.get? slot with _ | m
    · have hrefused : (s.step (.ask slot query)).2 = .error (.noSuchMessage slot) := by
        rw [Session.step, Session.withMessage_of_none hm]
        rfl
      rw [answer, hrefused]
      rfl
    · rw [answer, Session.answer_step_ask hm, Option.toList_some, List.flatMap_singleton,
        Message.records_ask]
      split_ifs <;> rfl
  | _ =>
    rw [hnone (by rintro _ _ ⟨⟩)]
    rfl

theorem countP_warn_flatMap (moments : List Moment) :
    (moments.flatMap fun t => t.entries.map Entry.record).countP (·.level == .warn) =
      moments.countP (saysExpired ·.answer) := by
  induction moments with
  | nil => rfl
  | cons t rest ih =>
    rw [List.flatMap_cons, List.countP_append, countP_warn_entries, ih, List.countP_cons,
      Nat.add_comm]

/-- The expiry that is told is the one that the message holds from then on. -/
theorem entries_of_expireAfter {t : Moment} {slot : String} {now timeout : Int64}
    (h : t.step = .edit slot (.expireAfter now timeout)) :
    t.entries = (t.after.messages.get? slot).toList.map fun m =>
      .timeoutGiven m.messageId timeout.toInt m.expiry.toInt := by
  obtain ⟨s, a⟩ := t
  obtain rfl : a = .edit slot (.expireAfter now timeout) := h
  rcases hm : s.messages.get? slot with _ | m
  · have hsame : after ⟨s, .edit slot (.expireAfter now timeout)⟩ = s := by
      rw [after, Session.step, Session.withMessage_of_none hm]
      rfl
    simp only [entries, hsame, hm]
    rfl
  · have hput : (after ⟨s, .edit slot (.expireAfter now timeout)⟩).messages.get? slot =
        some { m with expiry := expiryAfter now timeout } := by
      rw [after, Session.step, Session.withMessage_of_get? hm]
      exact Slots.get?_put_self _ _ _
    simp only [entries, hput, hm, Option.toList_some, List.map_singleton, toInt_expiryAfter]

end Moment

/-! ## Whole runs -/

namespace Session

/-- An expired message warns each time that it is asked. -/
theorem run_asked_of_expired {s : Session} {slot : String} {m : Message}
    (hm : s.messages.get? slot = some m) {times : List Int64}
    (h : ∀ now ∈ times, m.hasExpired now) :
    (s.run (times.map fun now => .ask slot (.expired now))).1.journal.records =
      s.journal.records ++ times.map fun _ => (Entry.foundExpired m.correlationId).record := by
  induction times generalizing s with
  | nil => exact (List.append_nil _).symm
  | cons now rest ih =>
    obtain ⟨hnow, hrest⟩ := List.forall_mem_cons.1 h
    have hlog : (m.ask (.expired now)).records = [(Entry.foundExpired m.correlationId).record] := by
      rw [Message.ask, Message.checkExpiry, if_pos hnow]
      rfl
    have hsame : (s.step (.ask slot (.expired now))).1.messages = s.messages :=
      congrArg (·.messages) (s.step_eq_touched _)
    rw [List.map_cons, run_cons, ih (by rw [hsame, hm]) hrest, records_step_ask, hm,
      Option.toList_some, List.flatMap_singleton, hlog, List.append_assoc]
    rfl

/-- **The log of a run is exact.**  The records that were there are followed by
    those of the entries of each step, in order, and by no others.  So there are
    as many warnings as questions that were answered with yes; the expiry that a
    record tells is the one that the message holds from then on; and a message
    that has expired warns as often as it is asked. -/
theorem journal_of_run (s : Session) (steps : List Step) :
    (s.run steps).1.journal.records =
      s.journal.records ++ ((s.moments steps).flatMap Moment.entries).map Entry.record ∧
    (s.run steps).1.journal.records.countP (·.level == .warn) =
      s.journal.records.countP (·.level == .warn) + (s.run steps).2.countP saysExpired ∧
    (∀ t ∈ s.moments steps, ∀ slot now timeout, t.step = .edit slot (.expireAfter now timeout) →
      t.entries = (t.after.messages.get? slot).toList.map fun m =>
        .timeoutGiven m.messageId timeout.toInt m.expiry.toInt) ∧
    ∀ slot m (times : List Int64), s.messages.get? slot = some m →
      (∀ now ∈ times, m.hasExpired now) →
      (s.run (times.map fun now => .ask slot (.expired now))).1.journal.records =
        s.journal.records ++ times.map fun _ => (Entry.foundExpired m.correlationId).record := by
  have hrun : (s.run steps).1.journal.records = s.journal.records ++
      (s.moments steps).flatMap fun t => t.entries.map Entry.record :=
    appended_of_run (fun s => s.journal.records) Moment.records_after s steps
  refine ⟨?_, ?_, fun t _ slot now timeout => Moment.entries_of_expireAfter,
    fun slot m times hm h => run_asked_of_expired hm h⟩
  · rw [hrun, List.map_flatMap]
  · rw [hrun, List.countP_append, Moment.countP_warn_flatMap, answers_run, List.countP_map]
    rfl

end Session

end DeviceMail
