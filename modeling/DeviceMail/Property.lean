/-
  DeviceMail — the properties that a user attaches to a message.

  * `Property` is a named value;
  * `Properties` keeps them in the order in which they were last assigned:
    `set` takes away what the name had and puts the new property at the end.
-/
import DeviceMail.Json.Basic
import DeviceMail.Text.Dump

namespace DeviceMail

/-! ## One property -/

/-- A named value. -/
structure Property where
  name : String
  value : String
  deriving DecidableEq, Repr

namespace Property

/-- Whether the property has that name; case matters. -/
def hasName (property : Property) (name : String) : Bool := property.name == name

/-- An object with name and value. -/
def json (property : Property) : Json :=
  .object [("name", .string property.name), ("value", .string property.value)]

/-- The structure of a property. -/
def dump (property : Property) : Dump :=
  .record "MessageProperty" [("name", .string property.name), ("value", .string property.value)]

end Property

/-! ## Several properties -/

/-- Properties in the order of their last assignments. -/
structure Properties where
  toList : List Property := []
  deriving DecidableEq, Repr

namespace Properties

/-- No properties. -/
def empty : Properties := {}

/-- How many properties there are. -/
def size (properties : Properties) : Nat := properties.toList.length

/-- Whether there are none. -/
def isEmpty (properties : Properties) : Bool := properties.toList.isEmpty

/-- The value under a name. -/
def get? (properties : Properties) (name : String) : Option String :=
  (properties.toList.find? (·.hasName name)).map (·.value)

/-- Takes away the property of the same name, if there is one, and puts the new
    one at the end. -/
def set (properties : Properties) (property : Property) : Properties :=
  ⟨properties.toList.eraseP (·.hasName property.name) ++ [property]⟩

/-- Sets one property after the other. -/
def setAll (properties : Properties) (assignments : List Property) : Properties :=
  assignments.foldl set properties

/-- An array of the properties. -/
def json (properties : Properties) : Json := .array (properties.toList.map (·.json))

/-- The structure of properties. -/
def dump (properties : Properties) : Dump :=
  .record "PropertyList" [("entries", .list (properties.toList.map (·.dump)))]

example : (empty.setAll [⟨"a", "1"⟩, ⟨"b", "2"⟩, ⟨"a", "3"⟩]).toList =
    [⟨"b", "2"⟩, ⟨"a", "3"⟩] := by
  decide

end Properties

end DeviceMail
