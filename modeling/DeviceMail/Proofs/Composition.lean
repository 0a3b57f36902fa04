/-
  DeviceMail — what composing a draft comes to.

  The parts of a draft are looked at in an order of their own, and the message is
  made by a row of changes, some of which undo what others did.  Here both are
  said without any order of work.

  * `Draft.faults` lists what is wrong with a draft, in the order in which they are reported;
  * `Draft.message` is the message that a draft describes, field by field, and
    `Draft.records` what is logged about it;
  * `compose_of_fault` and `compose_of_faultless`: composing reports the first
    fault and logs nothing, or gives that message and logs these records.
-/
import DeviceMail.Draft.Compose
import DeviceMail.Proofs.Refusals

namespace DeviceMail.Draft

/-! ## What a draft says -/

/-- Faults of the body. -/
def bodyFaults (draft : Draft) : List DraftFault :=
  (if draft.text.isSome ∧ draft.base64.isSome then [.conflict "--text" "--base64"] else []) ++
  match draft.base64.map Base64.decodeText with
  | some (.error fault) => [.undecodable fault]
  | _ => []

/-- Faults of the client. -/
def clientFaults (draft : Draft) : List DraftFault :=
  if draft.onDevice.isSome ∧ draft.device.isNone then [.deviceMissing] else []

/-- Faults of the expiry. -/
def expiryFaults (draft : Draft) : List DraftFault :=
  (if draft.expiresIn.isSome ∧ draft.expiresAt.isSome then
    [.conflict "--expires-in-ms" "--expires-at-ms"] else []) ++
  match draft.expiresAt with
  | some time => if time < 0 then [.refused .negativeExpiry] else []
  | none => []

/-- All that is wrong with a draft: two bodies, a body that is not base64, a
    module without a device, two expiries, a negative expiry. -/
def faults (draft : Draft) : List DraftFault :=
  draft.bodyFaults ++ draft.clientFaults ++ draft.expiryFaults

/-- The body that a draft describes. -/
def body? (draft : Draft) : Option (List UInt8) :=
  match draft.text, draft.base64 with
  | some text, _ => some (Text.utf8 text)
  | none, some encoded => (Base64.decodeText encoded).toOption
  | none, none => none

/-- The expiry that a draft describes, in milliseconds since 1970.  A time from
    now on is kept within 64 bits. -/
def expiryMillis (draft : Draft) (now : Int64) : Int :=
  match draft.expiresIn, draft.expiresAt with
  | some timeout, _ =>
    max Int64.minValue.toInt (min Int64.maxValue.toInt (now.toInt + timeout.toInt))
  | none, some time => time.toInt
  | none, none => 0

/-- The message that a draft describes. -/
def message (draft : Draft) (s : Surroundings) : Message where
  messageId := draft.messageId.getD s.ids.messageId
  correlationId := draft.correlationId.getD s.ids.correlationId
  connectionDeviceId := draft.device
  connectionModuleId := draft.onDevice
  outputName := draft.outputName
  contentType := draft.contentType
  contentEncoding :=
    if draft.security then some "application/json"
    else draft.contentEncoding.or (if draft.text.isSome then some "utf-8" else none)
  expiry := .ofInt (draft.expiryMillis s.now)
  created := if draft.stampCreationTime then some s.instant else none
  componentName := draft.component
  isSecurity := draft.security
  properties := ⟨Properties.lastOfEach draft.properties⟩
  body := draft.body?

/-- What is logged about the message of a draft: its timeout, if it has one, and
    then that it was composed. -/
def records (draft : Draft) (s : Surroundings) : List Record :=
  (draft.expiresIn.map (draft.message s).timeoutRecord).toList ++
    [composedRecord (draft.message s)]

/-! ## The parts of the plan -/

theorem content_of_fault {draft : Draft} {fault : DraftFault} {rest : List DraftFault}
    (h : draft.bodyFaults = fault :: rest) : draft.content = .error fault := by
  rcases ht : draft.text with _ | text <;> rcases hb : draft.base64 with _ | encoded
  · simp [bodyFaults, ht, hb] at h
  · rcases hd : Base64.decodeText encoded with fault' | body
    · simp [bodyFaults, ht, hb, hd] at h
      simp [content, ht, hb, hd, h.1]
    · simp [bodyFaults, ht, hb, hd] at h
  · simp [bodyFaults, ht, hb] at h
  · simp [bodyFaults, ht, hb] at h
    simp [content, ht, hb, DraftFault.twoBodies, h.1]

theorem content_of_faultless {draft : Draft} (h : draft.bodyFaults = []) :
    ∃ content, draft.content = .ok content ∧ content.bytes? = draft.body? ∧
      content.encoding? = if draft.text.isSome then some "utf-8" else none := by
  rcases ht : draft.text with _ | text <;> rcases hb : draft.base64 with _ | encoded
  · exact ⟨.absent, by simp [content, ht, hb], by simp [body?, ht, hb, Content.bytes?], rfl⟩
  · rcases hd : Base64.decodeText encoded with fault | body
    · simp [bodyFaults, ht, hb, hd] at h
    · exact ⟨.bytes body, by simp [content, ht, hb, hd],
        by simp [body?, ht, hb, hd, Content.bytes?, Except.toOption], rfl⟩
  · exact ⟨.text text, by simp [content, ht, hb], by simp [body?, ht, Content.bytes?], rfl⟩
  · simp [bodyFaults, ht, hb] at h

theorem client_of_fault {draft : Draft} {fault : DraftFault} {rest : List DraftFault}
    (h : draft.clientFaults = fault :: rest) : draft.client = .error fault := by
  rcases hd : draft.device with _ | deviceId <;> rcases hm : draft.onDevice with _ | moduleId <;>
    simp [clientFaults, hd, hm] at h
  simp [client, hd, hm, h.1]

theorem client_of_faultless {draft : Draft} (h : draft.clientFaults = []) :
    ∃ client, draft.client = .ok client ∧
      Writes.ofAll (client.toList.map .connection) =
        { connectionDeviceId := draft.device, connectionModuleId := draft.onDevice } := by
  rcases hd : draft.device with _ | deviceId <;> rcases hm : draft.onDevice with _ | moduleId
  · exact ⟨none, by simp [client, hd, hm], rfl⟩
  · simp [clientFaults, hd, hm] at h
  · exact ⟨some (.device deviceId), by simp [client, hd, hm], rfl⟩
  · exact ⟨some (.onDevice deviceId moduleId), by simp [client, hd, hm], rfl⟩

/-- A negative expiry is not refused by the plan but by the message. -/
theorem expiryEdits_of_fault {draft : Draft} {fault : DraftFault} {rest : List DraftFault}
    (h : draft.expiryFaults = fault :: rest) (now : Int64) :
    draft.expiryEdits now = .error fault ∨
      ∃ time, time < 0 ∧ fault = .refused .negativeExpiry ∧
        draft.expiryEdits now = .ok [.expireAt time] := by
  rcases hi : draft.expiresIn with _ | timeout <;> rcases ha : draft.expiresAt with _ | time
  · simp [expiryFaults, hi, ha] at h
  · by_cases ht : time < 0
    · simp [expiryFaults, hi, ha, ht] at h
      exact Or.inr ⟨time, ht, h.1.symm, by simp [expiryEdits, hi, ha]⟩
    · simp [expiryFaults, hi, ha, ht] at h
  · simp [expiryFaults, hi, ha] at h
  · simp [expiryFaults, hi, ha] at h
    exact Or.inl (by simp [expiryEdits, hi, ha, DraftFault.twoExpiries, h.1])

theorem expiryEdits_of_faultless {draft : Draft} (h : draft.expiryFaults = []) (now : Int64) :
    ∃ edits expiry, draft.expiryEdits now = .ok edits ∧ edits.findSome? Edit.fault? = none ∧
      Writes.ofAll edits = { expiry := expiry } ∧
      expiry.getD 0 = .ofInt (draft.expiryMillis now) ∧
      ∀ m : Message, (m.editAll edits).records =
        (draft.expiresIn.map (m.tryAll edits).timeoutRecord).toList := by
  rcases hi : draft.expiresIn with _ | timeout <;> rcases ha : draft.expiresAt with _ | time
  · exact ⟨[], none, by simp [expiryEdits, hi, ha], rfl, rfl, by simp [expiryMillis, hi, ha],
      fun m => rfl⟩
  · have ht : ¬ time < 0 := fun ht => by simp [expiryFaults, hi, ha, ht] at h
    refine ⟨[.expireAt time], some time, by simp [expiryEdits, hi, ha], by simp [Edit.fault?, ht],
      by simp [Edit.writes, ht], by simp [expiryMillis, hi, ha], fun m => ?_⟩
    exact Message.records_editAll_of_silent (by simp [Edit.timeout?])
  · refine ⟨[.expireAfter now timeout], some (expiryAfter now timeout),
      by simp [expiryEdits, hi, ha], rfl, by simp [Edit.writes], ?_, fun m => ?_⟩
    · rw [Option.getD_some, expiryMillis, hi]
      simp only [← toInt_expiryAfter, Int64.ofInt_toInt]
    · rw [Message.editAll_cons_of_none rfl, Message.records_edit]
      rfl
  · simp [expiryFaults, hi, ha] at h

/-! ## What the plan writes and logs -/

theorem ofAll_headerEdits (draft : Draft) :
    Writes.ofAll draft.headerEdits =
      { messageId := draft.messageId
        correlationId := draft.correlationId
        properties := draft.properties
        contentType := draft.contentType.map some
        contentEncoding := draft.contentEncoding.map some
        outputName := draft.outputName
        componentName := draft.component } := by
  have hid : Writes.ofAll (draft.messageId.toList.map .messageId) =
      { messageId := draft.messageId } := by
    cases draft.messageId <;> rfl
  have hcorr : Writes.ofAll (draft.correlationId.toList.map .correlationId) =
      { correlationId := draft.correlationId } := by
    cases draft.correlationId <;> rfl
  have hprops : Writes.ofAll (draft.properties.map fun p => .property p.name p.value) =
      { properties := draft.properties } := by
    induction draft.properties with
    | nil => rfl
    | cons p rest ih =>
      rw [List.map_cons, Writes.ofAll_cons, ih]
      rfl
  have htype : Writes.ofAll (draft.contentType.toList.map fun v => .contentType (some v)) =
      { contentType := draft.contentType.map some } := by
    cases draft.contentType <;> rfl
  have henc : Writes.ofAll (draft.contentEncoding.toList.map fun v => .contentEncoding (some v)) =
      { contentEncoding := draft.contentEncoding.map some } := by
    cases draft.contentEncoding <;> rfl
  have hout : Writes.ofAll (draft.outputName.toList.map .outputName) =
      { outputName := draft.outputName } := by
    cases draft.outputName <;> rfl
  have hcomp : Writes.ofAll (draft.component.toList.map .componentName) =
      { componentName := draft.component } := by
    cases draft.component <;> rfl
  simp only [headerEdits, Writes.ofAll_append, hid, hcorr, hprops, htype, henc, hout, hcomp]
  simp [Writes.andThen]

theorem ofAll_closingEdits (draft : Draft) (instant : Instant) :
    Writes.ofAll (draft.closingEdits instant) =
      { created := if draft.stampCreationTime then some (some instant) else none
        contentEncoding := if draft.security then some (some "application/json") else none
        security := draft.security } := by
  rw [closingEdits]
  cases draft.stampCreationTime <;> cases draft.security <;> rfl

/-- A change that is never refused and logs nothing. -/
def Quiet (e : Edit) : Prop := e.fault? = none ∧ e.timeout? = none

theorem headerEdits_quiet (draft : Draft) : ∀ e ∈ draft.headerEdits, Quiet e := by
  intro e he
  simp only [headerEdits, List.mem_append, List.mem_map] at he
  rcases he with (((((⟨_, -, rfl⟩ | ⟨_, -, rfl⟩) | ⟨_, -, rfl⟩) | ⟨_, -, rfl⟩) | ⟨_, -, rfl⟩) |
    ⟨_, -, rfl⟩) | ⟨_, -, rfl⟩ <;> exact ⟨rfl, rfl⟩

theorem connection_quiet (client : Option Client) :
    ∀ e ∈ client.toList.map Edit.connection, Quiet e := by
  intro e he
  obtain ⟨_, -, rfl⟩ := List.mem_map.1 he
  exact ⟨rfl, rfl⟩

theorem closingEdits_quiet (draft : Draft) (instant : Instant) :
    ∀ e ∈ draft.closingEdits instant, Quiet e := by
  intro e he
  rw [closingEdits, List.mem_append] at he
  rcases he with he | he <;> split_ifs at he <;> simp at he <;> subst he <;> exact ⟨rfl, rfl⟩

theorem Quiet.findSome?_eq_none {edits : List Edit} (h : ∀ e ∈ edits, Quiet e) :
    edits.findSome? Edit.fault? = none :=
  List.findSome?_eq_none_iff.2 fun e he => (h e he).1

theorem Quiet.records_eq_nil {edits : List Edit} (h : ∀ e ∈ edits, Quiet e) (m : Message) :
    (m.editAll edits).records = [] :=
  Message.records_editAll_of_silent fun e he => (h e he).2

/-! ## Composing -/

section
variable {draft : Draft} {s : Surroundings}

theorem compose_of_plan_error {fault : DraftFault} (h : draft.plan s = .error fault) :
    draft.compose s = .silent (.error fault) := by
  rw [compose, h]

theorem compose_of_refusal {content : Content} {edits : List Edit} {fault : MessageFault}
    (h : draft.plan s = .ok (content, edits)) (hf : edits.findSome? Edit.fault? = some fault)
    (ht : ∀ e ∈ edits, e.timeout? = none) :
    draft.compose s = .silent (.error (.refused fault)) := by
  rw [compose, h]
  simp only [Message.value_editAll, hf, Message.records_editAll_of_silent ht, Logged.silent]

theorem compose_of_edits {content : Content} {edits : List Edit}
    (h : draft.plan s = .ok (content, edits)) (hf : edits.findSome? Edit.fault? = none) :
    draft.compose s =
      ⟨.ok ((Message.make content s.ids).tryAll edits),
        ((Message.make content s.ids).editAll edits).records ++
          [composedRecord ((Message.make content s.ids).tryAll edits)]⟩ := by
  rw [compose, h]
  simp only [Message.value_editAll, hf]

/-- **Composing a draft with faults reports the first and logs nothing.** -/
theorem compose_of_fault {fault : DraftFault} {rest : List DraftFault}
    (h : draft.faults = fault :: rest) : draft.compose s = .silent (.error fault) := by
  rw [faults] at h
  rcases hb : draft.bodyFaults with _ | ⟨first, others⟩
  · obtain ⟨content, hcontent, -⟩ := content_of_faultless hb
    rcases hc : draft.clientFaults with _ | ⟨first, others⟩
    · obtain ⟨client, hclient, -⟩ := client_of_faultless hc
      rw [hb, hc] at h
      rcases expiryEdits_of_fault h s.now with hexpiry | ⟨time, ht, rfl, hexpiry⟩
      · exact compose_of_plan_error (by rw [plan, hcontent, hclient, hexpiry]; rfl)
      · -- the plan stands, but one of its changes is refused
        have hheader := draft.headerEdits_quiet
        have hconnection := connection_quiet client
        have hclosing := draft.closingEdits_quiet s.instant
        refine compose_of_refusal (by rw [plan, hcontent, hclient, hexpiry]; rfl) ?_ ?_
        · simp [List.findSome?_append, Quiet.findSome?_eq_none hheader,
            Quiet.findSome?_eq_none hconnection, Edit.fault?, ht]
        · intro e he
          simp only [List.mem_append, List.mem_singleton] at he
          rcases he with ((he | he) | rfl) | he
          · exact (hheader e he).2
          · exact (hconnection e he).2
          · rfl
          · exact (hclosing e he).2
    · rw [hb, hc] at h
      obtain ⟨rfl, -⟩ := List.cons.inj h
      exact compose_of_plan_error (by rw [plan, hcontent, client_of_fault hc]; rfl)
  · rw [hb] at h
    obtain ⟨rfl, -⟩ := List.cons.inj h
    exact compose_of_plan_error (by rw [plan, content_of_fault hb]; rfl)

/-- The record of a timeout stays right while identifier and expiry do. -/
theorem timeoutRecord_overwrite (m : Message) {w : Writes} (hid : w.messageId = none)
    (hexpiry : w.expiry = none) : (m.overwrite w).timeoutRecord = m.timeoutRecord := by
  funext timeout
  simp [Message.timeoutRecord, Message.overwrite, hid, hexpiry]

/-- What the changes write comes to the message that the draft describes. -/
theorem overwrite_eq_message {content : Content} {expiry : Option Int64}
    (hbody : content.bytes? = draft.body?)
    (hencoding : content.encoding? = if draft.text.isSome then some "utf-8" else none)
    (hmillis : expiry.getD 0 = .ofInt (draft.expiryMillis s.now)) :
    (Message.make content s.ids).overwrite
        ((((Writes.ofAll draft.headerEdits).andThen
          { connectionDeviceId := draft.device, connectionModuleId := draft.onDevice }).andThen
          { expiry := expiry }).andThen (Writes.ofAll (draft.closingEdits s.instant))) =
      draft.message s := by
  have htype : (draft.contentType.map some).getD none = draft.contentType := by
    cases draft.contentType <;> rfl
  have hcreated : (if draft.stampCreationTime then some (some s.instant) else none).getD none =
      if draft.stampCreationTime then some s.instant else none := by
    cases draft.stampCreationTime <;> rfl
  have hprops : Properties.empty.setAll draft.properties =
      ⟨Properties.lastOfEach draft.properties⟩ := by
    rw [← Properties.toList_setAll_empty]
  have hwritten : ((if draft.security then some (some "application/json") else none).or
      (draft.contentEncoding.map some)).getD (if draft.text.isSome then some "utf-8" else none) =
      if draft.security then some "application/json"
      else draft.contentEncoding.or (if draft.text.isSome then some "utf-8" else none) := by
    cases draft.security <;> cases draft.contentEncoding <;> rfl
  rw [ofAll_headerEdits, ofAll_closingEdits, Message.make_eq, hbody, hencoding]
  simp only [Message.overwrite, Writes.andThen, message, Option.none_or, Option.or_none,
    List.append_nil, Bool.false_or]
  rw [htype, hwritten, hmillis, hcreated, hprops]

/-- **Composing a draft without faults gives the message that it describes.** -/
theorem compose_of_faultless (h : draft.faults = []) :
    draft.compose s = ⟨.ok (draft.message s), draft.records s⟩ := by
  rw [faults, List.append_eq_nil_iff, List.append_eq_nil_iff] at h
  obtain ⟨⟨hb, hc⟩, he⟩ := h
  obtain ⟨content, hcontent, hbody, hencoding⟩ := content_of_faultless hb
  obtain ⟨client, hclient, hconnection⟩ := client_of_faultless hc
  obtain ⟨edits, expiry, hedits, hfine, hexpiry, hmillis, hlog⟩ := expiryEdits_of_faultless he s.now
  let made := Message.make content s.ids
  let before := draft.headerEdits ++ client.toList.map Edit.connection
  have hplan : draft.plan s = .ok (content, before ++ edits ++ draft.closingEdits s.instant) := by
    rw [plan, hcontent, hclient, hedits]
    rfl
  have hbefore : ∀ e ∈ before, Quiet e := by
    intro e he
    rcases List.mem_append.1 he with he | he
    · exact draft.headerEdits_quiet e he
    · exact connection_quiet client e he
  have hclosing := draft.closingEdits_quiet s.instant
  have hfaultless : (before ++ edits).findSome? Edit.fault? = none := by
    rw [List.findSome?_append, Quiet.findSome?_eq_none hbefore, hfine]
    rfl
  have hmessage : made.tryAll (before ++ edits ++ draft.closingEdits s.instant) =
      draft.message s := by
    rw [Message.tryAll_eq_overwrite, Writes.ofAll_append, Writes.ofAll_append, Writes.ofAll_append,
      hconnection, hexpiry]
    exact overwrite_eq_message hbody hencoding hmillis
  -- a timeout is logged before the closing changes, but these leave its record right
  have hrecord : (made.tryAll (before ++ edits)).timeoutRecord =
      (draft.message s).timeoutRecord := by
    rw [← hmessage, Message.tryAll_append _ _ (draft.closingEdits _),
      Message.tryAll_eq_overwrite _ (draft.closingEdits _), ofAll_closingEdits,
      timeoutRecord_overwrite _ rfl rfl]
  have hrecords : (made.editAll (before ++ edits ++ draft.closingEdits s.instant)).records =
      (draft.expiresIn.map (draft.message s).timeoutRecord).toList := by
    rw [Message.records_editAll_append hfaultless, Quiet.records_eq_nil hclosing, List.append_nil,
      Message.records_editAll_append (Quiet.findSome?_eq_none hbefore),
      Quiet.records_eq_nil hbefore, List.nil_append, hlog, ← Message.tryAll_append, hrecord]
  have hnone : (before ++ edits ++ draft.closingEdits s.instant).findSome? Edit.fault? = none := by
    rw [List.findSome?_append, hfaultless, Quiet.findSome?_eq_none hclosing]
    rfl
  rw [compose_of_edits hplan hnone, hrecords, hmessage, records]

theorem compose_eq_error_iff (fault : DraftFault) :
    (draft.compose s).value = .error fault ↔ draft.faults.head? = some fault := by
  rcases h : draft.faults with _ | ⟨first, rest⟩
  · simp [compose_of_faultless h]
  · simp [compose_of_fault h, Logged.silent]

theorem compose_eq_ok_iff (m : Message) :
    (draft.compose s).value = .ok m ↔ draft.faults = [] ∧ draft.message s = m := by
  rcases h : draft.faults with _ | ⟨first, rest⟩
  · simp [compose_of_faultless h]
  · simp [compose_of_fault h, Logged.silent]

/-- A message that was composed logs at least that, a fault logs nothing. -/
theorem records_compose_eq_nil_iff : (draft.compose s).records = [] ↔ draft.faults ≠ [] := by
  rcases h : draft.faults with _ | ⟨first, rest⟩
  · simp [compose_of_faultless h, records]
  · simp [compose_of_fault h, Logged.silent]

end

/-! ## Which message, which fault -/

/-- No expiry lies outside of 64 bits. -/
theorem toInt_expiryMillis (draft : Draft) (now : Int64) :
    (Int64.ofInt (draft.expiryMillis now)).toInt = draft.expiryMillis now := by
  rcases hi : draft.expiresIn with _ | timeout
  · rcases ha : draft.expiresAt with _ | time
    · simp [expiryMillis, hi, ha]
    · simp [expiryMillis, hi, ha]
  · simp only [expiryMillis, hi, ← toInt_expiryAfter, Int64.ofInt_toInt]

/-- **A message that is composed is the one that the draft describes.**  Its
    expiry is the one meant, not merely that modulo 64 bits, and nothing else is
    logged but the timeout and the message itself. -/
theorem message_of_compose {draft : Draft} {s : Surroundings} {m : Message}
    (h : (draft.compose s).value = .ok m) :
    m = draft.message s ∧ m.expiry.toInt = draft.expiryMillis s.now ∧
      (draft.compose s).records = draft.records s := by
  obtain ⟨hfaults, rfl⟩ := (compose_eq_ok_iff m).1 h
  refine ⟨rfl, ?_, by rw [compose_of_faultless hfaults]⟩
  exact draft.toInt_expiryMillis s.now

/-- A draft that uses what overrides and what is overridden: an empty identifier,
    a property set twice, an encoding of its own in a security message, and a
    time beyond 64 bits. -/
theorem message_of_compose_overriding :
    let draft : Draft :=
      { text := some "é"
        properties := [⟨"unit", "F"⟩, ⟨"room", "2"⟩, ⟨"unit", "C"⟩]
        messageId := some ""
        contentEncoding := some "utf-16"
        device := some "pump"
        onDevice := some "meter"
        expiresIn := some Int64.maxValue
        security := true }
    let s : Surroundings := ⟨5, ⟨0, 0, by decide, by decide⟩, ⟨"a", "b"⟩⟩
    ∃ m : Message, (draft.compose s).value = .ok m ∧
      m = { messageId := ""
            correlationId := "b"
            connectionDeviceId := some "pump"
            connectionModuleId := some "meter"
            contentEncoding := some "application/json"
            expiry := Int64.maxValue
            isSecurity := true
            properties := ⟨[⟨"room", "2"⟩, ⟨"unit", "C"⟩]⟩
            body := some [0xC3, 0xA9] } := by
  intro draft s
  obtain ⟨m, h⟩ : ∃ m, (draft.compose s).value = .ok m :=
    ⟨draft.message s, (compose_eq_ok_iff _).2 ⟨by decide, rfl⟩⟩
  obtain ⟨rfl, -, -⟩ := message_of_compose h
  exact ⟨draft.message s, h, by decide⟩

/-- **A draft is refused for the first of its faults, and for nothing else.**  The
    fault is reported without a record, and it is the same for every draft with
    this body, client and expiry, whatever else that draft says and whatever the
    surroundings are. -/
theorem compose_refuses_first_fault (draft other : Draft) (s s' : Surroundings) :
    (∀ fault, (draft.compose s).value = .error fault ↔ draft.faults.head? = some fault) ∧
      ((∃ m, (draft.compose s).value = .ok m) ↔ draft.faults = []) ∧
      ((draft.compose s).records = [] ↔ ∃ fault, (draft.compose s).value = .error fault) ∧
      ∀ fault,
        (({ other with
            text := draft.text
            base64 := draft.base64
            device := draft.device
            onDevice := draft.onDevice
            expiresIn := draft.expiresIn
            expiresAt := draft.expiresAt } : Draft).compose s').value = .error fault ↔
          (draft.compose s).value = .error fault := by
  refine ⟨compose_eq_error_iff, ?_, ?_, fun fault => ?_⟩
  · simp [compose_eq_ok_iff]
  · simp [records_compose_eq_nil_iff, compose_eq_error_iff, ← Option.isSome_iff_exists]
  · -- the faults are those of body, client and expiry alone
    rw [compose_eq_error_iff, compose_eq_error_iff]
    rfl

end DeviceMail.Draft
