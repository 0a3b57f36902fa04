/-
  DeviceMail — the options of the command line.

  Each option sets one part of a draft.  An option has a long spelling, after
  two dashes, and some have a letter, after one.
-/

namespace DeviceMail

/-- The options. -/
inductive OptionName where
  | text
  | base64
  | property
  | messageId
  | correlationId
  | contentType
  | contentEncoding
  | outputName
  | component
  | device
  | onDevice
  | expiresIn
  | expiresAt
  | stampCreationTime
  | security
  deriving DecidableEq, Repr

namespace OptionName

/-- All options. -/
def all : List OptionName :=
  [.text, .base64, .property, .messageId, .correlationId, .contentType, .contentEncoding,
    .outputName, .component, .device, .onDevice, .expiresIn, .expiresAt, .stampCreationTime,
    .security]

/-- The long spelling, without its dashes. -/
def long : OptionName → String
  | .text => "text"
  | .base64 => "base64"
  | .property => "property"
  | .messageId => "message-id"
  | .correlationId => "correlation-id"
  | .contentType => "content-type"
  | .contentEncoding => "content-encoding"
  | .outputName => "output-name"
  | .component => "component"
  | .device => "device"
  | .onDevice => "module"
  | .expiresIn => "expires-in-ms"
  | .expiresAt => "expires-at-ms"
  | .stampCreationTime => "stamp-creation-time"
  | .security => "security"

/-- The letter, if the option has one. -/
def letter : OptionName → Option Char
  | .property => some 'P'
  | .device => some 'd'
  | .onDevice => some 'm'
  | _ => none

/-- Whether the option takes a value.  The others are flags. -/
def takesValue : OptionName → Bool
  | .stampCreationTime | .security => false
  | _ => true

/-- Whether the option may be given more than once and takes any number of
    values. -/
def repeats : OptionName → Bool
  | .property => true
  | _ => false

/-- Whether any argument at all is a value of the option, also one that begins
    with a dash. -/
def takesDashes : OptionName → Bool
  | .expiresIn | .expiresAt => true
  | _ => false

/-- How a complaint about a value names the option. -/
def usage : OptionName → String
  | .property => "--property <properties>..."
  | .expiresIn => "--expires-in-ms <expires_in_ms>"
  | .expiresAt => "--expires-at-ms <expires_at_ms>"
  | name => "--" ++ name.long

end OptionName

end DeviceMail
