/-
  DeviceMail — questions to a message.

  `Message.ask` answers a question.  No question changes the message, and only
  the one about its expiry may log something.
-/
import DeviceMail.Message.Expiry
import DeviceMail.Message.Text

namespace DeviceMail

/-- A question to a message. -/
inductive Query where
  /-- Which bytes does it carry? -/
  | body
  /-- How many bytes does it carry? -/
  | bodyLength
  /-- Which stream does it carry?  Messages carry none. -/
  | bodyStream
  /-- What is the value of this property? -/
  | property (name : String)
  | properties
  | summary
  | dump
  | kind
  | sender
  /-- Has it expired, if it is `now`? -/
  | expired (now : Int64)
  deriving DecidableEq

/-- What a message replies to a question. -/
inductive Reply where
  | body (bytes : Option (List UInt8))
  | bodyLength (length : Option Nat)
  | noStream
  | property (value : Option String)
  | properties (properties : Properties)
  | summary (text : String)
  | dump (shape : Dump)
  | kind (kind : Option MessageKind)
  | sender (endpoint : Option Endpoint)
  | expired (answer : Bool)

/-- The reply of a message to a question, and what was logged about it. -/
def Message.ask (m : Message) : Query → Logged Reply
  | .body => .silent (.body m.body)
  | .bodyLength => .silent (.bodyLength (m.body.map (·.length)))
  | .bodyStream => .silent .noStream
  | .property name => .silent (.property (m.properties.get? name))
  | .properties => .silent (.properties m.properties)
  | .summary => .silent (.summary m.summary)
  | .dump => .silent (.dump m.dump)
  | .kind => .silent (.kind m.kind)
  | .sender => .silent (.sender m.sender)
  | .expired now => (m.checkExpiry now).map .expired

end DeviceMail
