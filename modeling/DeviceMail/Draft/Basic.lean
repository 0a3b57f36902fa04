/-
  DeviceMail — drafts of messages.

  A draft says what a message is to be.  Its parts are given independently of
  each other, so they may not fit together.

  * `Draft.content` is what the message is to be made from, `Draft.client` who
    is to send it;
  * `DraftFault` lists what can be wrong with a draft.
-/
import DeviceMail.Base64
import DeviceMail.Message.Basic

namespace DeviceMail

/-- What a message is to be. -/
structure Draft where
  /-- The body, as a text. -/
  text : Option String := none
  /-- The body, as bytes in base64. -/
  base64 : Option String := none
  properties : List Property := []
  messageId : Option String := none
  correlationId : Option String := none
  contentType : Option String := none
  contentEncoding : Option String := none
  outputName : Option String := none
  component : Option String := none
  /-- The device that sends the message. -/
  device : Option String := none
  /-- The module on that device, if a module sends the message. -/
  onDevice : Option String := none
  /-- Milliseconds from now to the expiry. -/
  expiresIn : Option Int64 := none
  /-- The expiry, in milliseconds since 1970. -/
  expiresAt : Option Int64 := none
  /-- Whether the message says when it was created. -/
  stampCreationTime : Bool := false
  /-- Whether it is a security message. -/
  security : Bool := false
  deriving DecidableEq

/-! ## Faults -/

/-- Why a draft gives no message. -/
inductive DraftFault where
  /-- The message refuses a part of it. -/
  | refused (fault : MessageFault)
  /-- The body is not base64. -/
  | undecodable (fault : Base64.Fault)
  /-- Two parts exclude each other. -/
  | conflict (first second : String)
  /-- There is a module, but no device that it runs on. -/
  | deviceMissing
  deriving DecidableEq, Repr

namespace DraftFault

/-- There are two bodies. -/
def twoBodies : DraftFault := .conflict "--text" "--base64"

/-- There are two expiries. -/
def twoExpiries : DraftFault := .conflict "--expires-in-ms" "--expires-at-ms"

/-- What is said about the draft. -/
def text : DraftFault → String
  | .refused fault => "Invalid message: " ++ fault.text
  | .undecodable fault => "Invalid base64 body: " ++ fault.text
  | .conflict first second => first ++ " and " ++ second ++ " cannot be used together"
  | .deviceMissing => "--module requires --device"

/-- What is said about the fault behind it, where there is one. -/
def cause : DraftFault → Option String
  | .refused fault => some fault.text
  | .undecodable fault => some fault.text
  | .conflict _ _ | .deviceMissing => none

/-- The structure of the fault. -/
def dump : DraftFault → Dump
  | .refused fault => .tagged "Message" [fault.dump]
  | .undecodable fault => .tagged "Body" [fault.dump]
  | .conflict first second => .tagged "Conflict" [.string first, .string second]
  | .deviceMissing => .atom "ModuleWithoutDevice".toList

end DraftFault

/-! ## Parts of a draft -/

namespace Draft

/-- What the message is to be made from.  Two bodies exclude each other, also
    where the second is not base64. -/
def content (draft : Draft) : Except DraftFault Content :=
  match draft.text, draft.base64 with
  | some _, some _ => .error .twoBodies
  | some text, none => .ok (.text text)
  | none, some encoded =>
    match Base64.decodeText encoded with
    | .error fault => .error (.undecodable fault)
    | .ok body => .ok (.bytes body)
  | none, none => .ok .absent

/-- Who is to send the message, if that is said. -/
def client (draft : Draft) : Except DraftFault (Option Client) :=
  match draft.device, draft.onDevice with
  | some deviceId, some moduleId => .ok (some (.onDevice deviceId moduleId))
  | some deviceId, none => .ok (some (.device deviceId))
  | none, some _ => .error .deviceMissing
  | none, none => .ok none

end Draft

end DeviceMail
