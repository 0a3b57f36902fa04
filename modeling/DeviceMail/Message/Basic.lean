/-
  DeviceMail — messages between a device and its hub.

  A message is a body together with the data that routes and correlates it.

  * `Message.make` makes one from its content and two identifiers; everything
    else is absent until it is set;
  * `Message.make?` is the same for a content that may be missing;
  * `Message.notice` is what the receiver of a message is told.
-/
import DeviceMail.Client
import DeviceMail.Identifier
import DeviceMail.Message.Fault
import DeviceMail.Message.Kind
import DeviceMail.Progress
import DeviceMail.Property
import DeviceMail.Text.Bytes
import DeviceMail.Time.Instant

namespace DeviceMail

/-- What a message is made from. -/
inductive Content where
  /-- No body. -/
  | absent
  /-- A body as it is. -/
  | bytes (body : List UInt8)
  /-- A text, whose bytes are the body. -/
  | text (body : String)
  deriving DecidableEq, Repr

/-- A message. -/
structure Message where
  messageId : String
  /-- Ties an answer to its request; empty if there is nothing to tie. -/
  correlationId : String
  destination : Option String := none
  /-- Who created the message. -/
  userId : Option String := none
  /-- The device that was authenticated when the message was sent. -/
  connectionDeviceId : Option String := none
  /-- The module that was authenticated when the message was sent. -/
  connectionModuleId : Option String := none
  /-- The channel on which a module received the message. -/
  inputName : Option String := none
  /-- The channel on which a module sends the message. -/
  outputName : Option String := none
  deliveryAcknowledgement : Option String := none
  contentType : Option String := none
  contentEncoding : Option String := none
  /-- When the message expires, in milliseconds since 1970; never, if zero. -/
  expiry : Int64 := 0
  /-- When the message was created. -/
  created : Option Instant := none
  /-- The part of the device that the message comes from. -/
  componentName : Option String := none
  /-- Whether the message takes the way of security messages. -/
  isSecurity : Bool := false
  kind : Option MessageKind := none
  /-- Who sends the message, where several clients share a connection. -/
  sender : Option Endpoint := none
  properties : Properties := .empty
  body : Option (List UInt8) := none
  /-- Whoever is notified of the message's progress. -/
  receiver : Option Receiver := none
  /-- What is handed back with each notice. -/
  context : Option Context := none
  deriving DecidableEq

namespace Message

/-- The content encoding of a message made from a text. -/
def textEncoding : String := "utf-8"

/-- The content encoding of a security message. -/
def securityEncoding : String := "application/json"

/-- A new message.  One made from a text says how the text is encoded. -/
def make (content : Content) (ids : IdPair) : Message :=
  let m : Message := { messageId := ids.messageId, correlationId := ids.correlationId }
  match content with
  | .absent => m
  | .bytes body => { m with body := some body }
  | .text body => { m with body := some (Text.utf8 body), contentEncoding := some textEncoding }

/-- A new message, if there is a content to make it from. -/
def make? (content : Option Content) (ids : IdPair) : Except MessageFault Message :=
  match content with
  | none => .error .bodyAbsent
  | some content => .ok (make content ids)

/-- What the receiver of `m` is told when something happens to `about`.  An
    error is passed on only by the hooks that report one. -/
def notice (m about : Message) (hook : Hook) (error : Option String) : Notice where
  hook := hook
  messageId := about.messageId
  correlationId := about.correlationId
  context := m.context
  error := if hook.reportsError then error else none

end Message

end DeviceMail
