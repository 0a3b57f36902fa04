/-
  DeviceMail — the command line.

  Only what has to come from outside is done here: reading the clock, drawing
  random identifiers, and printing.
-/
import DeviceMail.CommandLine.Outcome
import Std.Time.DateTime.Timestamp

namespace DeviceMail.CommandLine

/-- The current time. -/
def clock : IO Instant := do
  let nanos := (← Std.Time.Timestamp.now).toNanosecondsSinceUnixEpoch.val
  let seconds := nanos / (nanosPerSecond : Int)
  match Instant.ofSeconds? seconds (nanos % (nanosPerSecond : Int)).toNat with
  | some instant => return instant
  | none => throw (IO.userError "the clock is out of range")

/-- The current time in milliseconds. -/
def clockMillis : IO Int64 := do
  let instant ← clock
  return .ofInt (instant.seconds * 1000 + (instant.nanos / 1000000 : Nat))

/-- A random identifier. -/
def randomId : IO String := do
  let bytes ← IO.getRandomBytes 16
  let number := bytes.data.toList.foldl (fun n byte => n * 256 + byte.toNat) 0
  return (Uuid.ofRandom (BitVec.ofNat 128 number)).text

/-- Composes a message from the arguments and shows it. -/
def run (args : List String) : IO UInt32 := do
  let instant ← clock
  let messageId ← randomId
  let correlationId ← randomId
  let surroundings : Surroundings := ⟨← clockMillis, instant, ⟨messageId, correlationId⟩⟩
  let outcome := Outcome.ofArguments args surroundings (← clockMillis)
  IO.print outcome.output
  if let some complaint := outcome.complaint then IO.eprint complaint
  if let some record := outcome.errorRecord then
    let time := String.ofList (instant.clockText ++ ['Z'])
    IO.eprintln ("[" ++ time ++ " " ++ record.text)
  return outcome.exitCode

end DeviceMail.CommandLine

/-- The command. -/
def main (args : List String) : IO UInt32 := DeviceMail.CommandLine.run args
