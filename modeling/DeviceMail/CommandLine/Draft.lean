/-
  DeviceMail — the draft that a command line describes.

  * `many`, `single` and `flag` collect what a command line says about one
    option, or find what is wrong with it;
  * `Draft.ofItems` collects all of it, `Draft.ofArguments` begins with the
    arguments themselves.
-/
import DeviceMail.CommandLine.Item
import DeviceMail.Draft.Basic

namespace DeviceMail

namespace Item

/-! ## One option -/

/-- Reads the values of an option.  The first that is refused is reported. -/
def readAll {α : Type} (name : OptionName) (read : String → Except ValueFault α) :
    List String → Except Stop (List α)
  | [] => .ok []
  | text :: rest =>
    match read text with
    | .error fault => .error (.invalidValue name fault)
    | .ok a => (readAll name read rest).map (a :: ·)

/-- All values of an option that takes some.  They are looked at before it is
    counted how often the option is given. -/
def many {α : Type} (items : List Item) (name : OptionName)
    (read : String → Except ValueFault α) : Except Stop (List α) :=
  if timesGiven items name ≠ 0 ∧ valuesOf items name = [] then .error (.emptyValue name)
  else
    match readAll name read (valuesOf items name) with
    | .error stop => .error stop
    | .ok values =>
      if name.repeats = false ∧ 1 < timesGiven items name then .error (.repeated name)
      else .ok values

/-- The value of an option that takes one. -/
def single {α : Type} (items : List Item) (name : OptionName)
    (read : String → Except ValueFault α) : Except Stop (Option α) :=
  (many items name read).map List.head?

/-- Whether a flag is given. -/
def flag (items : List Item) (name : OptionName) : Except Stop Bool :=
  if 1 < timesGiven items name then .error (.repeated name)
  else .ok (timesGiven items name = 1)

/-- An option that still waits for its first value when the arguments end. -/
def checkPending (items : List Item) : Option OptionName → Except Stop Unit
  | none => .ok ()
  | some name => if valuesOf items name = [] then .error (.emptyValue name) else .ok ()

end Item

namespace Draft

/-! ## All options -/

/-- The draft that items add up to. -/
def ofItems (items : List Item) : Except Stop Draft := do
  let text ← Item.single items .text .ok
  let base64 ← Item.single items .base64 .ok
  let properties ← Item.many items .property Property.ofArgument
  let messageId ← Item.single items .messageId .ok
  let correlationId ← Item.single items .correlationId .ok
  let contentType ← Item.single items .contentType .ok
  let contentEncoding ← Item.single items .contentEncoding .ok
  let outputName ← Item.single items .outputName .ok
  let component ← Item.single items .component .ok
  let device ← Item.single items .device .ok
  let onDevice ← Item.single items .onDevice .ok
  let expiresIn ← Item.single items .expiresIn millisOfArgument
  let expiresAt ← Item.single items .expiresAt millisOfArgument
  let stampCreationTime ← Item.flag items .stampCreationTime
  let security ← Item.flag items .security
  return { text, base64, properties, messageId, correlationId, contentType, contentEncoding,
           outputName, component, device, onDevice, expiresIn, expiresAt, stampCreationTime,
           security }

/-- The draft that a command line describes. -/
def ofArguments (arguments : List String) : Except Stop Draft := do
  let (items, pending) ← Item.ofArguments none arguments
  Item.checkPending items pending
  ofItems items

end Draft

end DeviceMail
