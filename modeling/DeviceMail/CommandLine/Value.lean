/-
  DeviceMail — the values of options.

  * `Property.ofArgument` reads a property in the form `name=value`;
  * `millisOfArgument` reads a time in milliseconds.
-/
import DeviceMail.Property
import DeviceMail.Text.Decimal

namespace DeviceMail

/-- Why the value of an option is refused. -/
inductive ValueFault where
  /-- It is not a name, an equals sign and a value. -/
  | noProperty (argument : String)
  /-- It is not a 64-bit number. -/
  | noNumber (fault : Decimal.Fault)
  deriving DecidableEq, Repr

/-- What is said about the value. -/
def ValueFault.text : ValueFault → String
  | .noProperty argument => "Expected name=value, got '" ++ argument ++ "'"
  | .noNumber fault => fault.text

/-- The property that an argument stands for.  Its name ends at the first equals
    sign and is not empty; all after that sign is its value. -/
def Property.ofArgument (argument : String) : Except ValueFault Property :=
  let name := argument.toList.takeWhile (· ≠ '=')
  match argument.toList.dropWhile (· ≠ '=') with
  | [] => .error (.noProperty argument)
  | _ :: value =>
    if name = [] then .error (.noProperty argument) else .ok ⟨.ofList name, .ofList value⟩

example : (Property.ofArgument "expr=a=b").toOption = some ⟨"expr", "a=b"⟩ := by decide +kernel
example : (Property.ofArgument "=b").toOption = none := by decide +kernel

/-- The number of milliseconds that an argument stands for. -/
def millisOfArgument (argument : String) : Except ValueFault Int64 :=
  match Decimal.readInt64 argument with
  | .error fault => .error (.noNumber fault)
  | .ok value => .ok value

end DeviceMail
