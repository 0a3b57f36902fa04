/-
  DeviceMail — telling a client how its message gets on.

  A message may carry a receiver for such notices and a context that is handed
  back with each of them.  A receiver listens to some of the six hooks; a
  notice on another hook passes it by.
-/

namespace DeviceMail

/-- The points in the life of a message at which its receiver is notified. -/
inductive Hook where
  /-- The request waits to be sent. -/
  | requestQueued
  /-- The request was written to the transport. -/
  | requestSent
  /-- The hub acknowledged the request. -/
  | requestAcknowledged
  /-- A response to the request arrived. -/
  | responseReceived
  /-- The response was acknowledged to the hub. -/
  | responseAcknowledged
  /-- An acknowledgement arrived for which no request waits. -/
  | unknownMessageAcknowledged
  deriving DecidableEq, Repr

/-- All hooks, in the order of a message's life. -/
def Hook.all : List Hook :=
  [.requestQueued, .requestSent, .requestAcknowledged, .responseReceived,
    .responseAcknowledged, .unknownMessageAcknowledged]

/-- Whether a notice on the hook may report an error. -/
def Hook.reportsError : Hook → Bool
  | .requestAcknowledged | .responseReceived | .unknownMessageAcknowledged => true
  | .requestQueued | .requestSent | .responseAcknowledged => false

/-- Whoever is notified, with the hooks that it listens to. -/
structure Receiver where
  /-- Tells receivers apart. -/
  id : Nat
  hooks : List Hook
  deriving DecidableEq, Repr

/-- What a client wants to get back with each notice. -/
inductive Context where
  | text (value : String)
  | number (value : Int64)
  deriving DecidableEq, Repr

/-- A notice as its receiver sees it. -/
structure Notice where
  hook : Hook
  /-- The identifiers of the message it is about. -/
  messageId : String
  correlationId : String
  context : Option Context
  error : Option String
  deriving DecidableEq, Repr

/-- A notice together with the receiver that heard it. -/
structure Delivery where
  receiver : Nat
  notice : Notice
  deriving DecidableEq, Repr

/-- What a receiver hears of a notice. -/
def Receiver.hear (receiver : Receiver) (notice : Notice) : List Delivery :=
  if notice.hook ∈ receiver.hooks then [⟨receiver.id, notice⟩] else []

end DeviceMail
