/-
  DeviceMail — what a message carries does not show.

  Bodies of the same length cannot be told apart from anything that is said about
  their messages: not from a summary or a dump, not from the log, and not from
  the answer to any question but the one for the body.

  * `Message.Alike` relates messages that differ at most in the bytes they carry,
    `Session.Alike` sessions that differ at most in such messages;
  * `dump_eq`, `summary_eq` and `ask_eq`: what two messages that are alike show;
  * `step_alike` and `run_alike`: sessions that are alike stay so, and answer
    alike, whatever steps they take;
  * `payload_never_shown` puts this together, with the same for drafts.
-/
import DeviceMail.Proofs.Composition
import DeviceMail.Proofs.Erasure

namespace DeviceMail

/-! ## Messages that differ in their bytes -/

namespace Message

/-- The message with another body. -/
def withBody (m : Message) (body : Option (List UInt8)) : Message := { m with body := body }

/-- Messages that agree in all but their bodies, which have the same length or
    are both absent. -/
structure Alike (m n : Message) : Prop where
  rest : m.withBody none = n.withBody none
  length : m.body.map List.length = n.body.map List.length

theorem Alike.refl (m : Message) : m.Alike m := ⟨rfl, rfl⟩

theorem alike_withBody {m : Message} {body : Option (List UInt8)}
    (h : m.body.map List.length = body.map List.length) : m.Alike (m.withBody body) := ⟨rfl, h⟩

theorem Alike.exists_body {m n : Message} (h : m.Alike n) :
    ∃ body, n = m.withBody body ∧ m.body.map List.length = body.map List.length := by
  refine ⟨n.body, ?_, h.length⟩
  exact (congrArg (·.withBody n.body) h.rest).symm

theorem tryEdit_withBody (m : Message) (body : Option (List UInt8)) (e : Edit) :
    (m.withBody body).tryEdit e = (m.tryEdit e).withBody body := by
  rw [tryEdit_eq_overwrite, tryEdit_eq_overwrite]
  rfl

theorem body_tryEdit (m : Message) (e : Edit) : (m.tryEdit e).body = m.body := by
  rw [tryEdit_eq_overwrite]
  rfl

theorem dump_withBody {m : Message} {body : Option (List UInt8)}
    (h : m.body.map List.length = body.map List.length) : (m.withBody body).dump = m.dump := by
  have hbody : Dump.option (fun bytes => .count bytes.length) body =
      Dump.option (fun bytes => .count bytes.length) m.body := by
    rcases hm : m.body with _ | bytes <;> rcases body with _ | others
    · rfl
    · simp [hm] at h
    · simp [hm] at h
    · have hlength : bytes.length = others.length := by simpa [hm] using h
      simp only [Dump.option, hlength]
  simp only [dump, withBody, hbody]

section
variable {m n : Message} (h : m.Alike n)
include h

theorem Alike.tryEdit (e : Edit) : (m.tryEdit e).Alike (n.tryEdit e) := by
  obtain ⟨body, rfl, hlength⟩ := h.exists_body
  rw [tryEdit_withBody]
  exact alike_withBody (by rw [body_tryEdit]; exact hlength)

theorem Alike.records_eq (e : Edit) : (m.edit e).records = (n.edit e).records := by
  obtain ⟨body, rfl, -⟩ := h.exists_body
  rw [records_edit, records_edit, tryEdit_withBody]
  rfl

theorem Alike.summary_eq : m.summary = n.summary := by
  obtain ⟨body, rfl, -⟩ := h.exists_body
  rfl

theorem Alike.dump_eq : m.dump = n.dump := by
  obtain ⟨body, rfl, hlength⟩ := h.exists_body
  rw [dump_withBody hlength]

theorem Alike.notice_eq {k l : Message} (hkl : k.Alike l) (hook : Hook) (error : Option String) :
    m.notice k hook error = n.notice l hook error := by
  obtain ⟨body, rfl, -⟩ := h.exists_body
  obtain ⟨other, rfl, -⟩ := hkl.exists_body
  rfl

theorem Alike.receiver_eq : m.receiver = n.receiver := by
  obtain ⟨body, rfl, -⟩ := h.exists_body
  rfl

/-- A question for anything but the body is answered alike, and logs alike. -/
theorem Alike.ask_eq {query : Query} (hquery : query ≠ .body) : m.ask query = n.ask query := by
  cases query with
  | body => exact absurd rfl hquery
  | bodyLength => rw [ask, ask, h.length]
  | summary => rw [ask, ask, h.summary_eq]
  | dump => rw [ask, ask, h.dump_eq]
  | _ =>
    obtain ⟨body, rfl, -⟩ := h.exists_body
    rfl

end

end Message

/-! ## Sessions that differ in such messages -/

/-- Sessions with messages that are alike in the same slots, and with the same
    sources, log and notices. -/
structure Session.Alike (s t : Session) : Prop where
  messages : ∀ slot, Option.Rel Message.Alike (s.messages.get? slot) (t.messages.get? slot)
  sources : s.sources = t.sources
  journal : s.journal = t.journal
  deliveries : s.deliveries = t.deliveries

/-- Answers that agree but for the bytes of a message or a body. -/
inductive AnswersAlike : Except Refusal Answer → Except Refusal Answer → Prop where
  | same (answer : Except Refusal Answer) : AnswersAlike answer answer
  | message {m n : Message} (h : m.Alike n) : AnswersAlike (.ok (.message m)) (.ok (.message n))
  | body {bytes others : Option (List UInt8)}
      (h : bytes.map List.length = others.map List.length) :
      AnswersAlike (.ok (.reply (.body bytes))) (.ok (.reply (.body others)))

namespace Session

/-- Outcomes of a step that leave sessions alike and answer alike. -/
def OutcomesAlike (outcome other : Session × Except Refusal Answer) : Prop :=
  outcome.1.Alike other.1 ∧ AnswersAlike outcome.2 other.2

section
variable {s t : Session} (h : s.Alike t)
include h

theorem Alike.put {m n : Message} (hm : m.Alike n) (slot : String) :
    Session.Alike { s with messages := s.messages.put slot m }
      { t with messages := t.messages.put slot n } := by
  refine ⟨fun other => ?_, h.sources, h.journal, h.deliveries⟩
  rw [Slots.get?_put, Slots.get?_put]
  split_ifs
  · exact .some hm
  · exact h.messages other

theorem Alike.remove (slot : String) :
    Session.Alike { s with messages := s.messages.remove slot }
      { t with messages := t.messages.remove slot } := by
  refine ⟨fun other => ?_, h.sources, h.journal, h.deliveries⟩
  rw [Slots.get?_remove, Slots.get?_remove]
  split_ifs
  · exact .none
  · exact h.messages other

theorem Alike.log (records : List Record) : (s.log records).Alike (t.log records) :=
  ⟨h.messages, h.sources, congrArg (·.writeAll records) h.journal, h.deliveries⟩

theorem Alike.store {m n : Message} (hm : m.Alike n) (slot : String) :
    OutcomesAlike (s.store slot m) (t.store slot n) := ⟨h.put hm slot, .message hm⟩

theorem Alike.refuse (refusal : Refusal) : OutcomesAlike (s.refuse refusal) (t.refuse refusal) :=
  ⟨h, .same _⟩

/-- Both sessions refuse a step with a message, or go on with messages that are
    alike. -/
theorem Alike.withMessage_rel
    {R : Session × Except Refusal Answer → Session × Except Refusal Answer → Prop}
    (slot : String) {go go' : Message → Session × Except Refusal Answer}
    (hrefuse : ∀ refusal, R (s.refuse refusal) (t.refuse refusal))
    (hgo : ∀ m n, m.Alike n → R (go m) (go' n)) :
    R (s.withMessage slot go) (t.withMessage slot go') := by
  have hrel := h.messages slot
  rcases hm : s.messages.get? slot with _ | m <;> rcases hn : t.messages.get? slot with _ | n <;>
    rw [hm, hn] at hrel
  · rw [withMessage_of_none hm, withMessage_of_none hn]
    exact hrefuse _
  · cases hrel
  · cases hrel
  · rw [withMessage_of_get? hm, withMessage_of_get? hn]
    cases hrel with
    | some hmn => exact hgo m n hmn

theorem Alike.withMessage (slot : String) {go go' : Message → Session × Except Refusal Answer}
    (hgo : ∀ m n, m.Alike n → OutcomesAlike (go m) (go' n)) :
    OutcomesAlike (s.withMessage slot go) (t.withMessage slot go') :=
  h.withMessage_rel slot h.refuse hgo

theorem Alike.withSource (name : String) {go go' : IdSource → Session × Except Refusal Answer}
    (hgo : ∀ source, OutcomesAlike (go source) (go' source)) :
    OutcomesAlike (s.withSource name go) (t.withSource name go') := by
  rcases hs : s.sources.get? name with _ | source
  · rw [withSource_of_none hs, withSource_of_none (h.sources ▸ hs)]
    exact h.refuse _
  · rw [withSource_of_get? hs, withSource_of_get? (h.sources ▸ hs)]
    exact hgo source

theorem Alike.putSource (name : String) (source : IdSource) :
    Session.Alike { s with sources := s.sources.put name source }
      { t with sources := t.sources.put name source } :=
  ⟨h.messages, congrArg (·.put name source) h.sources, h.journal, h.deliveries⟩

theorem Alike.deliver (deliveries : List Delivery) :
    Session.Alike { s with deliveries := s.deliveries ++ deliveries }
      { t with deliveries := t.deliveries ++ deliveries } :=
  ⟨h.messages, h.sources, h.journal, congrArg (· ++ deliveries) h.deliveries⟩

/-- **A step leaves sessions alike, and is answered alike.** -/
theorem step_alike (a : Step) : OutcomesAlike (s.step a) (t.step a) := by
  cases a with
  | addSource name source => exact ⟨h.putSource name source, .same _⟩
  | drawId name fresh => exact h.withSource name fun source => ⟨h.putSource name _, .same _⟩
  | make slot content source fresh =>
    cases source with
    | none => exact h.store (.refl _) slot
    | some name =>
      exact h.withSource name fun source => (h.putSource name _).store (.refl _) slot
  | make? slot content fresh =>
    cases content with
    | none => exact h.refuse _
    | some content => exact h.store (.refl _) slot
  | copy slot target => exact h.withMessage slot fun m n hmn => h.store hmn target
  | move slot target => exact h.withMessage slot fun m n hmn => (h.remove slot).store hmn target
  | edit slot e =>
    refine h.withMessage slot fun m n hmn => ?_
    simp only [Message.value_edit, hmn.records_eq e]
    cases e.fault? with
    | none => exact (h.log _).store (hmn.tryEdit e) slot
    | some fault => exact h.refuse _
  | ask slot query =>
    refine h.withMessage slot fun m n hmn => ?_
    by_cases hquery : query = .body
    · subst hquery
      exact ⟨h.log [], .body hmn.length⟩
    · rw [hmn.ask_eq hquery]
      exact ⟨h.log _, .same _⟩
  | look slot => exact h.withMessage slot fun m n hmn => ⟨h, .message hmn⟩
  | notify slot about hook error =>
    refine h.withMessage slot fun m n hmn => h.withMessage about fun k l hkl => ?_
    rw [hmn.receiver_eq, hmn.notice_eq hkl]
    cases n.receiver with
    | none => exact ⟨h, .same _⟩
    | some receiver => exact ⟨h.deliver _, .same _⟩

theorem answer_ask_eq (slot : String) {query : Query} (hquery : query ≠ .body) :
    (s.step (.ask slot query)).2 = (t.step (.ask slot query)).2 := by
  refine h.withMessage_rel (R := fun outcome other => outcome.2 = other.2) slot (fun _ => rfl)
    fun m n hmn => ?_
  rw [hmn.ask_eq hquery]

/-- **A run leaves sessions alike, and is answered alike.** -/
theorem run_alike (steps : List Step) :
    (s.run steps).1.Alike (t.run steps).1 ∧
      List.Forall₂ AnswersAlike (s.run steps).2 (t.run steps).2 := by
  induction steps generalizing s t with
  | nil => exact ⟨h, .nil⟩
  | cons a rest ih =>
    obtain ⟨hfirst, hanswer⟩ := step_alike h a
    obtain ⟨hrest, hanswers⟩ := ih hfirst
    rw [run_cons, run_cons]
    exact ⟨hrest, .cons hanswer hanswers⟩

end

end Session

/-! ## Drafts with different bytes -/

namespace Draft

/-- The draft with a body in base64, in place of the body that it has. -/
def carrying (draft : Draft) (encoded : String) : Draft :=
  { draft with text := none, base64 := some encoded }

section
variable (draft : Draft) {encoded other : String} {bytes others : List UInt8}
  (hbytes : Base64.decodeText encoded = .ok bytes) (hothers : Base64.decodeText other = .ok others)
include hbytes hothers

theorem faults_carrying : (draft.carrying encoded).faults = (draft.carrying other).faults := by
  have hnone {text : String} {body : List UInt8} (h : Base64.decodeText text = .ok body) :
      (draft.carrying text).bodyFaults = [] := by
    simp [bodyFaults, carrying, h]
  rw [faults, faults, hnone hbytes, hnone hothers]
  rfl

theorem message_carrying (hlength : bytes.length = others.length) (s : Surroundings) :
    ((draft.carrying encoded).message s).Alike ((draft.carrying other).message s) := by
  refine ⟨rfl, ?_⟩
  change ((Base64.decodeText encoded).toOption).map List.length =
    ((Base64.decodeText other).toOption).map List.length
  rw [hbytes, hothers]
  exact congrArg some hlength

theorem records_compose_carrying (hlength : bytes.length = others.length) (s : Surroundings) :
    ((draft.carrying encoded).compose s).records = ((draft.carrying other).compose s).records := by
  have hfaults := draft.faults_carrying hbytes hothers
  have hmessage := draft.message_carrying hbytes hothers hlength s
  rcases h : (draft.carrying encoded).faults with _ | ⟨fault, rest⟩
  · rw [compose_of_faultless h, compose_of_faultless (hfaults ▸ h)]
    simp only [records, composedRecord, hmessage.summary_eq]
    rfl
  · rw [compose_of_fault h, compose_of_fault (hfaults ▸ h)]

end

end Draft

/-! ## Nothing shows the bytes -/

namespace Session

/-- **What a message carries does not show.**  Take two sessions that differ at
    most in the bytes of messages, and let both take the same steps.  Then they
    have logged the same, every step was answered alike, the messages in a slot
    have the same summary and the same dump in either layout, and a question for
    anything but the body is answered the same.  Likewise, a draft logs the same
    whichever bytes of one length it has for its body. -/
theorem payload_never_shown {s t : Session} (h : s.Alike t) (steps : List Step) :
    (s.run steps).1.journal = (t.run steps).1.journal ∧
    List.Forall₂ AnswersAlike (s.run steps).2 (t.run steps).2 ∧
    (∀ slot, Option.Rel
      (fun m n : Message => m.Alike n ∧ m.summary = n.summary ∧
        m.dump.lineText = n.dump.lineText ∧ m.dump.blockText = n.dump.blockText)
      ((s.run steps).1.messages.get? slot) ((t.run steps).1.messages.get? slot)) ∧
    (∀ slot query, query ≠ .body →
      ((s.run steps).1.step (.ask slot query)).2 = ((t.run steps).1.step (.ask slot query)).2) ∧
    ∀ (draft : Draft) encoded other bytes others, Base64.decodeText encoded = .ok bytes →
      Base64.decodeText other = .ok others → bytes.length = others.length → ∀ surroundings,
        ((draft.carrying encoded).compose surroundings).records =
          ((draft.carrying other).compose surroundings).records := by
  obtain ⟨hrun, hanswers⟩ := run_alike h steps
  refine ⟨hrun.journal, hanswers, fun slot => ?_, fun slot query => answer_ask_eq hrun slot,
    fun draft encoded other bytes others hbytes hothers hlength surroundings =>
      draft.records_compose_carrying hbytes hothers hlength surroundings⟩
  have hrel := hrun.messages slot
  revert hrel
  generalize (s.run steps).1.messages.get? slot = found
  generalize (t.run steps).1.messages.get? slot = found'
  rintro (hmn | _)
  · exact .some ⟨hmn, hmn.summary_eq, by rw [hmn.dump_eq], by rw [hmn.dump_eq]⟩
  · exact .none

/-- Two messages of three bytes each, one of which is copied once its timeout is
    over. -/
theorem payload_never_shown_of_three_bytes :
    let m : Message := { messageId := "m", correlationId := "c", body := some [1, 2, 3] }
    let s : Session := { messages := Slots.empty.put "a" m }
    let t : Session := { messages := Slots.empty.put "a" (m.withBody (some [9, 8, 7])) }
    let steps : List Step :=
      [.edit "a" (.expireAfter 10 (-4)), .ask "a" (.expired 20), .copy "a" "b", .ask "b" .body]
    s.Alike t ∧ (s.run steps).1.journal = (t.run steps).1.journal ∧
      (s.run steps).1.journal.records.length = 2 ∧
      ((s.run steps).1.step (.ask "b" .bodyLength)).2 =
        ((t.run steps).1.step (.ask "b" .bodyLength)).2 ∧
      ∀ surroundings, ((({} : Draft).carrying "AQID").compose surroundings).records =
        ((({} : Draft).carrying "CQgH").compose surroundings).records := by
  intro m s t steps
  have hempty : Session.Alike {} {} := ⟨fun _ => .none, rfl, rfl, rfl⟩
  have hm : m.Alike (m.withBody (some [9, 8, 7])) := Message.alike_withBody rfl
  have h : s.Alike t := hempty.put hm "a"
  obtain ⟨hjournal, -, -, hask, hdraft⟩ := payload_never_shown h steps
  refine ⟨h, hjournal, by decide, hask "b" .bodyLength (by decide), ?_⟩
  exact hdraft {} "AQID" "CQgH" [1, 2, 3] [9, 8, 7] (by decide) (by decide) rfl

end Session

end DeviceMail
