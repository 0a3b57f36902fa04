/-
  DeviceMail — what changes write.

  A change of a message writes some fields and leaves the others.  What it
  writes depends on the change alone, and a change that is refused writes
  nothing.

  * `Edit.writes` lists what a change writes, `Message.overwrite` carries it out,
    and `Writes.ofAll` puts the writes of several changes together;
  * `tryEdit_eq_overwrite`: this is what trying a change does;
  * `tryAll_eq_overwrite`: and trying several;
  * `findSomeRev?_writes`: of several changes, the last one to write a field
    decides what is written.
-/
import DeviceMail.Message.Edit
import DeviceMail.Proofs.Assignments

namespace DeviceMail

/-! ## The writes of a change -/

/-- What is written to a message.  A field that is absent here is left alone;
    destination, delivery acknowledgement and body are never written. -/
structure Writes where
  messageId : Option String := none
  correlationId : Option String := none
  userId : Option String := none
  connectionDeviceId : Option String := none
  connectionModuleId : Option String := none
  inputName : Option String := none
  outputName : Option String := none
  componentName : Option String := none
  /-- The content type may be cleared, and so may the next two. -/
  contentType : Option (Option String) := none
  contentEncoding : Option (Option String) := none
  created : Option (Option Instant) := none
  expiry : Option Int64 := none
  /-- Whether the message becomes a security message. -/
  security : Bool := false
  kind : Option MessageKind := none
  sender : Option Endpoint := none
  /-- The properties that are assigned, in order. -/
  properties : List Property := []
  receiver : Option Receiver := none
  context : Option Context := none

/-- The fields that each change owns, and what it writes to them.  A client
    owns the module only if it is one, and a security message has its content
    encoding.  Nothing is written by a property without name or value, or by a
    negative expiry. -/
def Edit.writes : Edit → Writes
  | .messageId id => { messageId := some id }
  | .correlationId id => { correlationId := some id }
  | .userId id => { userId := some id }
  | .connectionDevice id => { connectionDeviceId := some id }
  | .connectionModule id => { connectionModuleId := some id }
  | .connection (.device deviceId) => { connectionDeviceId := some deviceId }
  | .connection (.onDevice deviceId moduleId) =>
    { connectionDeviceId := some deviceId, connectionModuleId := some moduleId }
  | .inputName name => { inputName := some name }
  | .outputName name => { outputName := some name }
  | .componentName name => { componentName := some name }
  | .contentType value => { contentType := some value }
  | .contentEncoding value => { contentEncoding := some value }
  | .property name value => { properties := [⟨name, value⟩] }
  | .property? (some name) (some value) => { properties := [⟨name, value⟩] }
  | .property? _ _ => {}
  | .expireAfter now timeout => { expiry := some (expiryAfter now timeout) }
  | .expireAt time => { expiry := if time < 0 then none else some time }
  | .created time => { created := some time }
  | .security => { contentEncoding := some (some Message.securityEncoding), security := true }
  | .kind k => { kind := some k }
  | .sender endpoint => { sender := some endpoint }
  | .receiver r => { receiver := some r }
  | .context c => { context := some c }

namespace Writes

/-- The writes `a` and then the writes `b`. -/
def andThen (a b : Writes) : Writes where
  messageId := b.messageId.or a.messageId
  correlationId := b.correlationId.or a.correlationId
  userId := b.userId.or a.userId
  connectionDeviceId := b.connectionDeviceId.or a.connectionDeviceId
  connectionModuleId := b.connectionModuleId.or a.connectionModuleId
  inputName := b.inputName.or a.inputName
  outputName := b.outputName.or a.outputName
  componentName := b.componentName.or a.componentName
  contentType := b.contentType.or a.contentType
  contentEncoding := b.contentEncoding.or a.contentEncoding
  created := b.created.or a.created
  expiry := b.expiry.or a.expiry
  security := a.security || b.security
  kind := b.kind.or a.kind
  sender := b.sender.or a.sender
  properties := a.properties ++ b.properties
  receiver := b.receiver.or a.receiver
  context := b.context.or a.context

/-- The writes of changes made in order. -/
def ofAll : List Edit → Writes
  | [] => {}
  | e :: rest => e.writes.andThen (ofAll rest)

@[simp] theorem ofAll_nil : ofAll [] = {} := rfl

theorem ofAll_cons (e : Edit) (rest : List Edit) :
    ofAll (e :: rest) = e.writes.andThen (ofAll rest) := rfl

@[simp] theorem empty_andThen (w : Writes) : ({} : Writes).andThen w = w := by
  simp [andThen]

@[simp] theorem andThen_empty (w : Writes) : w.andThen {} = w := by
  simp [andThen]

theorem andThen_assoc (a b c : Writes) : (a.andThen b).andThen c = a.andThen (b.andThen c) := by
  simp [andThen, Option.or_assoc, Bool.or_assoc]

theorem ofAll_append (a b : List Edit) : ofAll (a ++ b) = (ofAll a).andThen (ofAll b) := by
  induction a with
  | nil => simp
  | cons e rest ih => rw [List.cons_append, ofAll_cons, ofAll_cons, ih, andThen_assoc]

@[simp] theorem ofAll_singleton (e : Edit) : ofAll [e] = e.writes := by
  rw [ofAll_cons, ofAll_nil, andThen_empty]

end Writes

/-! ## Carrying writes out -/

/-- The bytes that a message made from the content carries. -/
def Content.bytes? : Content → Option (List UInt8)
  | .absent => none
  | .bytes body => some body
  | .text body => some (Text.utf8 body)

/-- The content encoding that a message made from the content begins with. -/
def Content.encoding? : Content → Option String
  | .absent | .bytes _ => none
  | .text _ => some Message.textEncoding

namespace Message

theorem make_eq (content : Content) (ids : IdPair) :
    make content ids =
      { messageId := ids.messageId
        correlationId := ids.correlationId
        contentEncoding := content.encoding?
        body := content.bytes? } := by
  cases content <;> rfl

/-- The message once writes have been carried out. -/
def overwrite (m : Message) (w : Writes) : Message where
  messageId := w.messageId.getD m.messageId
  correlationId := w.correlationId.getD m.correlationId
  destination := m.destination
  userId := w.userId.or m.userId
  connectionDeviceId := w.connectionDeviceId.or m.connectionDeviceId
  connectionModuleId := w.connectionModuleId.or m.connectionModuleId
  inputName := w.inputName.or m.inputName
  outputName := w.outputName.or m.outputName
  deliveryAcknowledgement := m.deliveryAcknowledgement
  contentType := w.contentType.getD m.contentType
  contentEncoding := w.contentEncoding.getD m.contentEncoding
  expiry := w.expiry.getD m.expiry
  created := w.created.getD m.created
  componentName := w.componentName.or m.componentName
  isSecurity := m.isSecurity || w.security
  kind := w.kind.or m.kind
  sender := w.sender.or m.sender
  properties := m.properties.setAll w.properties
  body := m.body
  receiver := w.receiver.or m.receiver
  context := w.context.or m.context

@[simp] theorem overwrite_empty (m : Message) : m.overwrite {} = m := by
  simp [overwrite]

theorem overwrite_andThen (m : Message) (a b : Writes) :
    m.overwrite (a.andThen b) = (m.overwrite a).overwrite b := by
  simp [overwrite, Writes.andThen, Option.getD_or, Option.or_assoc, Bool.or_assoc,
    Properties.setAll_append]

/-- **Trying a change carries its writes out.** -/
theorem tryEdit_eq_overwrite (m : Message) (e : Edit) : m.tryEdit e = m.overwrite e.writes := by
  cases e with
  | connection client =>
    cases client <;> simp [tryEdit, edit, Logged.silent, withConnection, overwrite, Edit.writes,
      Client.deviceId, Client.moduleId]
  | property? name value =>
    cases name <;> cases value <;> simp [tryEdit, edit, Logged.silent, withProperty?,
      withProperty, overwrite, Edit.writes]
  | expireAt time =>
    by_cases h : time < 0 <;> simp [tryEdit, edit, Logged.silent, expireAt, overwrite,
      Edit.writes, h]
  | _ => simp [tryEdit, edit, Logged.silent, Logged.map, withProperty, expireAfter, overwrite,
      Edit.writes]

theorem tryAll_append (m : Message) (a b : List Edit) :
    m.tryAll (a ++ b) = (m.tryAll a).tryAll b := List.foldl_append

/-- **Trying changes in order carries their writes out.** -/
theorem tryAll_eq_overwrite (m : Message) (edits : List Edit) :
    m.tryAll edits = m.overwrite (Writes.ofAll edits) := by
  induction edits generalizing m with
  | nil => exact (overwrite_empty m).symm
  | cons e rest ih =>
    rw [Writes.ofAll_cons, overwrite_andThen, ← tryEdit_eq_overwrite, ← ih]
    rfl

end Message

/-! ## The last writer -/

namespace Writes

/-- **The last change to write a field decides what is written to it.**  The
    field may be any of those that later writes replace. -/
theorem findSomeRev?_writes {α : Type} (edits : List Edit) (field : Writes → Option α)
    (hempty : field {} = none)
    (hthen : ∀ a b, field (a.andThen b) = (field b).or (field a)) :
    field (ofAll edits) = edits.findSomeRev? (field ·.writes) := by
  induction edits with
  | nil => exact hempty
  | cons e rest ih =>
    rw [ofAll_cons, hthen, ih, List.findSomeRev?]
    cases rest.findSomeRev? (field ·.writes) <;> rfl

theorem security_writes (e : Edit) : e.writes.security = decide (Edit.security = e) := by
  cases e with
  | connection client => cases client <;> simp [Edit.writes]
  | property? name value => cases name <;> cases value <;> simp [Edit.writes]
  | _ => simp [Edit.writes]

theorem security_ofAll (edits : List Edit) :
    (ofAll edits).security = decide (Edit.security ∈ edits) := by
  induction edits with
  | nil => rfl
  | cons e rest ih =>
    rw [ofAll_cons, andThen, ih, security_writes]
    simp

theorem properties_ofAll (edits : List Edit) :
    (ofAll edits).properties = edits.flatMap (·.writes.properties) := by
  induction edits with
  | nil => rfl
  | cons e rest ih => rw [ofAll_cons, List.flatMap_cons, ← ih, andThen]

/-- The writes of changes made in order, field by field. -/
theorem ofAll_eq (edits : List Edit) :
    ofAll edits =
      { messageId := edits.findSomeRev? (·.writes.messageId)
        correlationId := edits.findSomeRev? (·.writes.correlationId)
        userId := edits.findSomeRev? (·.writes.userId)
        connectionDeviceId := edits.findSomeRev? (·.writes.connectionDeviceId)
        connectionModuleId := edits.findSomeRev? (·.writes.connectionModuleId)
        inputName := edits.findSomeRev? (·.writes.inputName)
        outputName := edits.findSomeRev? (·.writes.outputName)
        componentName := edits.findSomeRev? (·.writes.componentName)
        contentType := edits.findSomeRev? (·.writes.contentType)
        contentEncoding := edits.findSomeRev? (·.writes.contentEncoding)
        created := edits.findSomeRev? (·.writes.created)
        expiry := edits.findSomeRev? (·.writes.expiry)
        security := decide (Edit.security ∈ edits)
        kind := edits.findSomeRev? (·.writes.kind)
        sender := edits.findSomeRev? (·.writes.sender)
        properties := edits.flatMap (·.writes.properties)
        receiver := edits.findSomeRev? (·.writes.receiver)
        context := edits.findSomeRev? (·.writes.context) } := by
  have last {α : Type} := @findSomeRev?_writes α edits
  rw [Writes.mk.injEq]
  refine ⟨last messageId rfl fun _ _ => rfl, last correlationId rfl fun _ _ => rfl,
    last userId rfl fun _ _ => rfl, last connectionDeviceId rfl fun _ _ => rfl,
    last connectionModuleId rfl fun _ _ => rfl, last inputName rfl fun _ _ => rfl,
    last outputName rfl fun _ _ => rfl, last componentName rfl fun _ _ => rfl,
    last contentType rfl fun _ _ => rfl, last contentEncoding rfl fun _ _ => rfl,
    last created rfl fun _ _ => rfl, last expiry rfl fun _ _ => rfl, security_ofAll edits,
    last kind rfl fun _ _ => rfl, last sender rfl fun _ _ => rfl, properties_ofAll edits,
    last receiver rfl fun _ _ => rfl, last context rfl fun _ _ => rfl⟩

end Writes

end DeviceMail
