/-
  DeviceMail — the lives of messages.

  A message is made once, and then changes are tried on it; it may be copied,
  and it may be moved.  Its life is what it was made from together with all the
  changes that were tried since.

  * `Session.livesAfter` and `Session.livesOfRun` keep account of the lives of
    all messages while a session takes steps;
  * `accounts_step` and `accounts_run`: the message in a slot is at all times
    what its life makes of it;
  * `Life.lastWritten` says field by field what that is: what the last change to
    own the field wrote, or else what the message was made with;
  * `messages_eq_lastWritten` puts the two together for every run.
-/
import DeviceMail.Proofs.Refusals
import DeviceMail.Session

namespace DeviceMail

/-! ## What a life makes of a message -/

/-- What a message was made from, and the changes tried on it since.  A copy
    goes on with the life of the message that it was copied from. -/
structure Life where
  content : Content
  ids : IdPair
  edits : List Edit := []

namespace Life

/-- The message that comes of the life. -/
def message (life : Life) : Message := (Message.make life.content life.ids).tryAll life.edits

/-- The life once another change has been tried. -/
def tried (life : Life) (e : Edit) : Life := { life with edits := life.edits ++ [e] }

theorem message_tried (life : Life) (e : Edit) :
    (life.tried e).message = life.message.tryEdit e := by
  rw [message, tried, Message.tryAll_append]
  rfl

/-- What the last change to own a field wrote to it, if one did. -/
def last {α : Type} (life : Life) (field : Writes → Option α) : Option α :=
  life.edits.findSomeRev? (field ·.writes)

/-- The message in which every field holds what the last change to own it wrote,
    or else what the message was made with. -/
def lastWritten (life : Life) : Message where
  messageId := (life.last (·.messageId)).getD life.ids.messageId
  correlationId := (life.last (·.correlationId)).getD life.ids.correlationId
  destination := none
  userId := life.last (·.userId)
  connectionDeviceId := life.last (·.connectionDeviceId)
  connectionModuleId := life.last (·.connectionModuleId)
  inputName := life.last (·.inputName)
  outputName := life.last (·.outputName)
  deliveryAcknowledgement := none
  contentType := (life.last (·.contentType)).getD none
  contentEncoding := (life.last (·.contentEncoding)).getD life.content.encoding?
  expiry := (life.last (·.expiry)).getD 0
  created := (life.last (·.created)).getD none
  componentName := life.last (·.componentName)
  isSecurity := decide (Edit.security ∈ life.edits)
  kind := life.last (·.kind)
  sender := life.last (·.sender)
  properties := Properties.empty.setAll (life.edits.flatMap (·.writes.properties))
  body := life.content.bytes?
  receiver := life.last (·.receiver)
  context := life.last (·.context)

/-- **The last writer decides.** -/
theorem message_eq_lastWritten (life : Life) : life.message = life.lastWritten := by
  rw [message, Message.tryAll_eq_overwrite, Message.make_eq, Writes.ofAll_eq]
  simp [Message.overwrite, lastWritten, last]

end Life

/-! ## Keeping account of lives -/

namespace Session

/-- The lives of the messages after a step, from those before it. -/
def livesAfter (s : Session) (lives : Slots Life) : Step → Slots Life
  | .make slot content none fresh => lives.put slot ⟨content, fresh, []⟩
  | .make slot content (some name) fresh =>
    match s.sources.get? name with
    | none => lives
    | some source => lives.put slot ⟨content, (source.drawPair fresh).1, []⟩
  | .make? _ none _ => lives
  | .make? slot (some content) fresh => lives.put slot ⟨content, fresh, []⟩
  | .copy slot target =>
    match lives.get? slot with
    | none => lives
    | some life => lives.put target life
  | .move slot target =>
    match lives.get? slot with
    | none => lives
    | some life => (lives.remove slot).put target life
  | .edit slot e =>
    match lives.get? slot with
    | none => lives
    | some life => lives.put slot (life.tried e)
  | .addSource .. | .drawId .. | .ask .. | .look .. | .notify .. => lives

/-- The lives of the messages after steps taken in order. -/
def livesOfRun (s : Session) (lives : Slots Life) : List Step → Slots Life
  | [] => lives
  | a :: rest => livesOfRun (s.step a).1 (s.livesAfter lives a) rest

/-- Each message is what its life makes of it, and there is a life for no other. -/
def Accounts (lives : Slots Life) (messages : Slots Message) : Prop :=
  ∀ slot, messages.get? slot = (lives.get? slot).map Life.message

section
variable {lives : Slots Life} {messages : Slots Message} (h : Accounts lives messages)
include h

theorem Accounts.put (slot : String) (life : Life) :
    Accounts (lives.put slot life) (messages.put slot life.message) := by
  intro other
  rw [Slots.get?_put, Slots.get?_put]
  split_ifs
  · rfl
  · exact h other

theorem Accounts.remove (slot : String) : Accounts (lives.remove slot) (messages.remove slot) := by
  intro other
  rw [Slots.get?_remove, Slots.get?_remove]
  split_ifs
  · rfl
  · exact h other

/-- A change that leaves the message as it was still belongs to its life. -/
theorem Accounts.put_same {slot : String} {life : Life}
    (hm : messages.get? slot = some life.message) : Accounts (lives.put slot life) messages := by
  intro other
  rw [Slots.get?_put]
  split_ifs with ho
  · rw [ho, hm, Option.map_some]
  · exact h other

end

/-- What a step with the message in a slot comes to. -/
theorem withMessage_of_get? {s : Session} {slot : String} {m : Message}
    (hm : s.messages.get? slot = some m) (go : Message → Session × Except Refusal Answer) :
    s.withMessage slot go = go m := by
  simp [withMessage, hm]

theorem withMessage_of_none {s : Session} {slot : String} (hm : s.messages.get? slot = none)
    (go : Message → Session × Except Refusal Answer) :
    s.withMessage slot go = s.refuse (.noSuchMessage slot) := by
  simp [withMessage, hm]

/-- **A step keeps account of the lives.** -/
theorem accounts_step {s : Session} {lives : Slots Life} (h : Accounts lives s.messages)
    (a : Step) : Accounts (s.livesAfter lives a) (s.step a).1.messages := by
  cases a with
  | addSource name source => exact h
  | drawId name fresh =>
    simp only [step, withSource, livesAfter]
    split <;> exact h
  | make slot content source fresh =>
    cases source with
    | none => exact h.put slot ⟨content, fresh, []⟩
    | some name =>
      simp only [step, withSource, livesAfter]
      rcases s.sources.get? name with _ | source
      · exact h
      · exact h.put slot ⟨content, (source.drawPair fresh).1, []⟩
  | make? slot content fresh =>
    cases content with
    | none => exact h
    | some content => exact h.put slot ⟨content, fresh, []⟩
  | copy slot target =>
    simp only [step, livesAfter]
    rcases hl : lives.get? slot with _ | life
    · rw [withMessage_of_none (by rw [h slot, hl]; rfl)]
      exact h
    · rw [withMessage_of_get? (by rw [h slot, hl]; rfl)]
      exact h.put target life
  | move slot target =>
    simp only [step, livesAfter]
    rcases hl : lives.get? slot with _ | life
    · rw [withMessage_of_none (by rw [h slot, hl]; rfl)]
      exact h
    · rw [withMessage_of_get? (by rw [h slot, hl]; rfl)]
      exact (h.remove slot).put target life
  | edit slot e =>
    simp only [step, livesAfter]
    rcases hl : lives.get? slot with _ | life
    · rw [withMessage_of_none (by rw [h slot, hl]; rfl)]
      exact h
    · have hm : s.messages.get? slot = some life.message := by rw [h slot, hl]; rfl
      rw [withMessage_of_get? hm]
      simp only [Message.value_edit]
      rcases hf : e.fault? with _ | fault
      · have hput := h.put slot (life.tried e)
        rw [life.message_tried] at hput
        exact hput
      · exact h.put_same (by rw [hm, life.message_tried, Message.tryEdit_of_fault hf])
  | ask slot query =>
    simp only [step, withMessage, livesAfter]
    split <;> exact h
  | look slot =>
    simp only [step, withMessage, livesAfter]
    split <;> exact h
  | notify slot about hook error =>
    simp only [step, withMessage, livesAfter]
    split
    · exact h
    · split
      · exact h
      · split <;> exact h

/-- **A run keeps account of the lives.** -/
theorem accounts_run {s : Session} {lives : Slots Life} (h : Accounts lives s.messages)
    (steps : List Step) : Accounts (s.livesOfRun lives steps) (s.run steps).1.messages := by
  induction steps generalizing s lives with
  | nil => exact h
  | cons a rest ih => exact ih (accounts_step h a)

/-- **Last writer and frame.**  Whatever steps a session takes, the message in a
    slot is one whose every field holds what the last change to own it wrote, or
    else what the message was made with.  A message is a security message if
    it was one before or became one, so never again not. -/
theorem messages_eq_lastWritten (steps : List Step) :
    (∀ slot, (run {} steps).1.messages.get? slot =
      ((livesOfRun {} .empty steps).get? slot).map Life.lastWritten) ∧
    ∀ (m : Message) (edits : List Edit),
      (m.tryAll edits).isSecurity = (m.isSecurity || decide (Edit.security ∈ edits)) := by
  refine ⟨fun slot => ?_, fun m edits => ?_⟩
  · have hnone : Accounts .empty (Slots.empty : Slots Message) := fun _ => rfl
    have hrun : Accounts (livesOfRun {} .empty steps) (run {} steps).1.messages :=
      accounts_run hnone steps
    rw [hrun slot]
    congr 1
    funext life
    exact life.message_eq_lastWritten
  · rw [Message.tryAll_eq_overwrite, Message.overwrite, Writes.security_ofAll]

end Session

end DeviceMail
