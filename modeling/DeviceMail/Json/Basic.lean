/-
  DeviceMail — JSON values.

  Numbers are integers, and an object keeps its fields in the order in which
  they were given.
-/

namespace DeviceMail

/-- A JSON value. -/
inductive Json where
  | null
  | bool (value : Bool)
  | number (value : Int)
  | string (text : String)
  | array (items : List Json)
  | object (fields : List (String × Json))

namespace Json

/-- An absent value is `null`. -/
def option {α : Type} (json : α → Json) : Option α → Json
  | none => .null
  | some a => json a

/-- A string, or `null`. -/
def optionString : Option String → Json := option .string

/-- The first field of that name in an object. -/
def field? (name : String) : Json → Option Json
  | .object fields => fields.lookup name
  | _ => none

/-- The text of a string. -/
def string? : Json → Option String
  | .string text => some text
  | _ => none

/-- The value of a number. -/
def number? : Json → Option Int
  | .number value => some value
  | _ => none

/-- The truth value. -/
def bool? : Json → Option Bool
  | .bool value => some value
  | _ => none

/-- The items of an array. -/
def array? : Json → Option (List Json)
  | .array items => some items
  | _ => none

end Json

end DeviceMail
