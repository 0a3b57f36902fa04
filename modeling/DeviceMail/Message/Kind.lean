/-
  DeviceMail — the exchanges that messages take part in.
-/
import DeviceMail.Json.Basic
import DeviceMail.Text.Dump

namespace DeviceMail

/-- The exchange that a message takes part in. -/
inductive MessageKind where
  /-- It is not known which. -/
  | unknown
  /-- Measurements from a device to the cloud. -/
  | telemetry
  /-- A call of a method on a device, or the answer to it. -/
  | methods
  /-- Reading or updating the twin of a device. -/
  | twin
  deriving DecidableEq, Repr

namespace MessageKind

/-- All kinds. -/
def all : List MessageKind := [.unknown, .telemetry, .methods, .twin]

/-- The kind in words. -/
def text : MessageKind → String
  | .unknown => "Unknown"
  | .telemetry => "Device Telemetry"
  | .methods => "Device Methods"
  | .twin => "Device Twin"

/-- The words run together. -/
def name : MessageKind → String
  | .unknown => "Unknown"
  | .telemetry => "DeviceTelemetry"
  | .methods => "DeviceMethods"
  | .twin => "DeviceTwin"

/-- The words in capitals, joined by underscores. -/
def json : MessageKind → Json
  | .unknown => .string "UNKNOWN"
  | .telemetry => .string "DEVICE_TELEMETRY"
  | .methods => .string "DEVICE_METHODS"
  | .twin => .string "DEVICE_TWIN"

/-- The structure of a kind. -/
def dump (kind : MessageKind) : Dump := .atom kind.name.toList

end MessageKind

end DeviceMail
