/-
  DeviceMail — when a message expires.

  Times are milliseconds since 1970.  An expiry of zero means never; any other
  expiry lies behind once the clock shows more.

  * `expiryAfter now timeout` is the sum of the two, kept within 64 bits;
  * `Message.expireAfter` and `Message.expireAt` set the expiry of a message;
  * `Message.hasExpired` asks whether it lies behind, and
    `Message.checkExpiry` warns of that as well.
-/
import DeviceMail.Log
import DeviceMail.Message.Basic

namespace DeviceMail

/-- The time `timeout` after `now`.  A sum beyond 64 bits becomes the nearest
    number within them. -/
def expiryAfter (now timeout : Int64) : Int64 := .ofIntClamp (now.toInt + timeout.toInt)

theorem toInt_expiryAfter (now timeout : Int64) :
    (expiryAfter now timeout).toInt =
      max Int64.minValue.toInt (min Int64.maxValue.toInt (now.toInt + timeout.toInt)) := by
  have hbounds : Int64.minValue.toInt ≤ Int64.maxValue.toInt := by decide
  rw [expiryAfter, Int64.ofIntClamp]
  split
  · split
    · rw [Int64.toInt_ofIntLE]
      omega
    · omega
  · omega

example : expiryAfter 5 Int64.maxValue = Int64.maxValue := by decide
example : expiryAfter (-5) Int64.minValue = Int64.minValue := by decide

namespace Message

/-- The part of the program that messages log under. -/
def logTarget : String := "hubmsg_envelope::messages::envelope"

/-! ## Setting the expiry -/

/-- The record of an expiry that was given as a timeout. -/
def timeoutRecord (m : Message) (timeout : Int64) : Record :=
  ⟨.trace, logTarget, "The message with message id " ++ m.messageId ++ " has expiry time in " ++
    Decimal.signedText timeout.toInt ++ " milliseconds and will expire on " ++
    Decimal.signedText m.expiry.toInt⟩

/-- Lets the message expire `timeout` after `now`, which is before `now` if the
    timeout is negative. -/
def expireAfter (m : Message) (now timeout : Int64) : Logged Message :=
  let m := { m with expiry := expiryAfter now timeout }
  ⟨m, [m.timeoutRecord timeout]⟩

/-- Lets the message expire at a time, which may not be negative. -/
def expireAt (m : Message) (time : Int64) : Except MessageFault Message :=
  if time < 0 then .error .negativeExpiry else .ok { m with expiry := time }

/-! ## Asking for it -/

/-- Whether the message has an expiry and it lies before `now`. -/
def hasExpired (m : Message) (now : Int64) : Bool := m.expiry ≠ 0 && m.expiry < now

/-- The warning of a message that has expired. -/
def expiredRecord (m : Message) : Record :=
  ⟨.warn, logTarget, "The message with correlation id " ++ m.correlationId ++ " expired"⟩

/-- Whether the message has expired.  Each time that it has, a warning is
    logged. -/
def checkExpiry (m : Message) (now : Int64) : Logged Bool :=
  if m.hasExpired now then ⟨true, [m.expiredRecord]⟩ else .silent false

end Message

end DeviceMail
