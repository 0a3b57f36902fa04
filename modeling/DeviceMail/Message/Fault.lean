/-
  DeviceMail — refused operations on messages.

  An operation is refused because one of its arguments is missing or out of
  range; it has no effect then.
-/
import DeviceMail.Text.Dump

namespace DeviceMail

/-- An operation that was refused because of an argument. -/
structure MessageFault where
  /-- What is wrong with the argument. -/
  reason : String
  deriving DecidableEq, Repr

namespace MessageFault

/-- A message is to be made from a body that is not there. -/
def bodyAbsent : MessageFault := ⟨"Message body cannot be absent"⟩

/-- A property is to be set without a name. -/
def nameAbsent : MessageFault := ⟨"Property name cannot be absent"⟩

/-- A property is to be set without a value. -/
def valueAbsent : MessageFault := ⟨"Property value cannot be absent"⟩

/-- A message is to expire before 1970. -/
def negativeExpiry : MessageFault := ⟨"Expiry time may not be negative"⟩

/-- What is said about the operation. -/
def text (fault : MessageFault) : String := "Invalid argument: " ++ fault.reason

/-- The structure of the fault. -/
def dump (fault : MessageFault) : Dump := .tagged "InvalidArgument" [.string fault.reason]

end MessageFault

end DeviceMail
