/-
  DeviceMail — what comes of a command line.

  The command composes a message of telemetry and shows it.

  * `Outcome.ofArguments` is what comes of its arguments;
  * `Outcome.output`, `Outcome.complaint` and `Outcome.errorRecord` are what it
    prints of that, and `Outcome.exitCode` is the status with which it ends.

  There is no help text here, and of the complaints about a command line only
  those about the value of an option have a text.
-/
import DeviceMail.CommandLine.Draft
import DeviceMail.Draft.Compose
import DeviceMail.Json.Printer

namespace DeviceMail

/-! ## Outcomes -/

/-- What comes of a command line. -/
inductive Outcome where
  /-- It describes no draft. -/
  | stopped (stop : Stop)
  /-- Its draft gives no message. -/
  | faulty (fault : DraftFault)
  /-- A message, and whether it has expired. -/
  | composed (m : Message) (expired : Bool)

/-- Composes the message that arguments describe.  Whether it has expired is
    seen from a later reading of the clock. -/
def Outcome.ofArguments (arguments : List String) (s : Surroundings) (later : Int64) : Outcome :=
  match Draft.ofArguments arguments with
  | .error stop => .stopped stop
  | .ok draft =>
    match (draft.compose s).value with
    | .error fault => .faulty fault
    | .ok m =>
      let m := { m with kind := some .telemetry }
      .composed m (m.checkExpiry later).value

/-! ## Texts -/

/-- The details of a message, in the order of their names. -/
def Message.details (m : Message) (expired : Bool) : Json :=
  .object
    [("bodyLength", .option (fun body => .number (body.length : Int)) m.body),
     ("componentName", .optionString m.componentName),
     ("connectionDeviceId", .optionString m.connectionDeviceId),
     ("connectionModuleId", .optionString m.connectionModuleId),
     ("contentEncoding", .optionString m.contentEncoding),
     ("contentType", .optionString m.contentType),
     ("correlationId", .string m.correlationId),
     ("creationTimeUtc", .optionString (m.created.map (·.hubText))),
     ("expired", .bool expired),
     ("expiryTime", .number m.expiry.toInt),
     ("messageId", .string m.messageId),
     ("messageType", .option MessageKind.json m.kind),
     ("outputName", .optionString m.outputName),
     ("properties", m.properties.json),
     ("securityMessage", .bool m.isSecurity)]

/-- The name and version of the command. -/
def versionText : String := "hubmsg 0.1.0\n"

/-- What is said about the value of an option. -/
def ValueFault.complaint (name : OptionName) (fault : ValueFault) : String :=
  "error: Invalid value for '" ++ name.usage ++ "': " ++ fault.text

/-- Whether the command line asks for help or for the version. -/
def Stop.isRequest : Stop → Bool
  | .help | .version => true
  | _ => false

/-! ## What the command shows -/

namespace Outcome

/-- The part of the program that the command logs under. -/
def logTarget : String := "hubmsg_demo"

/-- What is printed. -/
def output : Outcome → String
  | .stopped .version => versionText
  | .stopped _ | .faulty _ => ""
  | .composed m expired => m.summary ++ "\n" ++ (m.details expired).pretty ++ "\n"

/-- What is said about a value that the command cannot read. -/
def complaint : Outcome → Option String
  | .stopped (.invalidValue name fault) => some (fault.complaint name ++ "\n")
  | .stopped _ | .faulty _ | .composed _ _ => none

/-- What is logged about a draft that gives no message. -/
def errorRecord : Outcome → Option Record
  | .faulty fault => some ⟨.error, logTarget, "Could not build message: " ++ fault.text⟩
  | .stopped _ | .composed _ _ => none

/-- The status: 0 if the command did what it was asked, 1 for a command line
    that it cannot read, 2 for a draft that gives no message. -/
def exitCode : Outcome → UInt32
  | .stopped stop => if stop.isRequest then 0 else 1
  | .faulty _ => 2
  | .composed _ _ => 0

end Outcome

end DeviceMail
