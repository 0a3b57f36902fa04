/-
  DeviceMail — messages as text.

  * `Message.summary` is one line with the identifiers that are not empty;
  * `Message.dump` is the whole message for a developer, except for what it
    carries: of a body only the length is shown, of a receiver only whether
    there is one.
-/
import DeviceMail.Message.Basic

namespace DeviceMail.Message

/-- A label and an identifier in brackets, or nothing if the identifier is
    empty. -/
def labelled (label id : String) : String :=
  if id.isEmpty then "" else label ++ " [" ++ id ++ "] "

/-- The identifiers of a message on one line. -/
def summary (m : Message) : String :=
  " Message details: " ++ labelled "Correlation Id" m.correlationId ++
    labelled "Message Id" m.messageId

/-- The structure of a message, without its payload. -/
def dump (m : Message) : Dump :=
  .record "Message"
    [("message_id", .string m.messageId),
     ("correlation_id", .string m.correlationId),
     ("to", .option .string m.destination),
     ("user_id", .option .string m.userId),
     ("connection_device_id", .option .string m.connectionDeviceId),
     ("connection_module_id", .option .string m.connectionModuleId),
     ("input_name", .option .string m.inputName),
     ("output_name", .option .string m.outputName),
     ("content_type", .option .string m.contentType),
     ("content_encoding", .option .string m.contentEncoding),
     ("expiry_time", .integer m.expiry.toInt),
     ("creation_time_utc", .option (fun t => .atom t.dumpText) m.created),
     ("component_name", .option .string m.componentName),
     ("is_security_message", .bool m.isSecurity),
     ("message_type", .option MessageKind.dump m.kind),
     ("sender", .option Endpoint.dump m.sender),
     ("properties", m.properties.dump),
     ("body_len", .option (fun body => .count body.length) m.body),
     ("has_callback", .bool m.receiver.isSome)]

example : summary { messageId := "m", correlationId := "" } =
    " Message details: Message Id [m] " := by decide +kernel

end DeviceMail.Message
