/-
  DeviceMail — changes to a message.

  A change is made or refused; one that is refused leaves the message as it was
  and logs nothing.

  * `Message.edit` makes one change;
  * `Message.editAll` makes several and ends at the first that is refused;
  * `Message.tryAll` is what becomes of a message when each change is tried,
    whether or not the ones before it were refused.
-/
import DeviceMail.Message.Expiry

namespace DeviceMail

/-- A change to a message. -/
inductive Edit where
  | messageId (id : String)
  | correlationId (id : String)
  | userId (id : String)
  | connectionDevice (id : String)
  | connectionModule (id : String)
  /-- Sets the connection ids to those of an authenticated client.  A device
      leaves the module as it is. -/
  | connection (client : Client)
  | inputName (name : String)
  | outputName (name : String)
  | componentName (name : String)
  /-- Sets or clears the content type. -/
  | contentType (value : Option String)
  /-- Sets or clears the content encoding. -/
  | contentEncoding (value : Option String)
  /-- Sets a property. -/
  | property (name value : String)
  /-- Sets a property whose name or value may be missing. -/
  | property? (name value : Option String)
  /-- Lets the message expire some time after `now`. -/
  | expireAfter (now timeout : Int64)
  /-- Lets the message expire at a time, or never if that is zero. -/
  | expireAt (time : Int64)
  /-- Sets or clears the time of creation. -/
  | created (time : Option Instant)
  /-- Makes it a security message, whose content is JSON.  There is no way
      back. -/
  | security
  | kind (kind : MessageKind)
  | sender (endpoint : Endpoint)
  | receiver (receiver : Receiver)
  | context (context : Context)
  deriving DecidableEq

namespace Message

/-! ## Single changes -/

/-- The message with a property set. -/
def withProperty (m : Message) (name value : String) : Message :=
  { m with properties := m.properties.set ⟨name, value⟩ }

/-- The message with a property set, if it has a name and a value.  The name is
    looked at first. -/
def withProperty? (m : Message) : Option String → Option String → Except MessageFault Message
  | none, _ => .error .nameAbsent
  | some _, none => .error .valueAbsent
  | some name, some value => .ok (m.withProperty name value)

/-- The message with the connection ids of a client. -/
def withConnection (m : Message) (client : Client) : Message :=
  { m with
    connectionDeviceId := some client.deviceId
    connectionModuleId := client.moduleId <|> m.connectionModuleId }

/-- The message after a change, and what was logged about it. -/
def edit (m : Message) : Edit → Logged (Except MessageFault Message)
  | .messageId id => .silent (.ok { m with messageId := id })
  | .correlationId id => .silent (.ok { m with correlationId := id })
  | .userId id => .silent (.ok { m with userId := some id })
  | .connectionDevice id => .silent (.ok { m with connectionDeviceId := some id })
  | .connectionModule id => .silent (.ok { m with connectionModuleId := some id })
  | .connection client => .silent (.ok (m.withConnection client))
  | .inputName name => .silent (.ok { m with inputName := some name })
  | .outputName name => .silent (.ok { m with outputName := some name })
  | .componentName name => .silent (.ok { m with componentName := some name })
  | .contentType value => .silent (.ok { m with contentType := value })
  | .contentEncoding value => .silent (.ok { m with contentEncoding := value })
  | .property name value => .silent (.ok (m.withProperty name value))
  | .property? name value => .silent (m.withProperty? name value)
  | .expireAfter now timeout => (m.expireAfter now timeout).map .ok
  | .expireAt time => .silent (m.expireAt time)
  | .created time => .silent (.ok { m with created := time })
  | .security =>
    .silent (.ok { m with contentEncoding := some securityEncoding, isSecurity := true })
  | .kind kind => .silent (.ok { m with kind := some kind })
  | .sender endpoint => .silent (.ok { m with sender := some endpoint })
  | .receiver receiver => .silent (.ok { m with receiver := some receiver })
  | .context context => .silent (.ok { m with context := some context })

/-! ## Several changes -/

/-- The message after changes made in order.  The first that is refused ends
    them; what was logged before it stays logged. -/
def editAll (m : Message) : List Edit → Logged (Except MessageFault Message)
  | [] => .silent (.ok m)
  | e :: rest =>
    let first := m.edit e
    match first.value with
    | .error fault => ⟨.error fault, first.records⟩
    | .ok changed =>
      let others := editAll changed rest
      ⟨others.value, first.records ++ others.records⟩

/-- The message once a change has been tried: changed, or as it was if the
    change is refused. -/
def tryEdit (m : Message) (e : Edit) : Message :=
  match (m.edit e).value with
  | .ok changed => changed
  | .error _ => m

/-- The message once changes have been tried in order. -/
def tryAll (m : Message) (edits : List Edit) : Message := edits.foldl tryEdit m

end Message

end DeviceMail
