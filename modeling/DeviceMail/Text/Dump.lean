/-
  DeviceMail — values laid out for a developer to read.

  A `Dump` says what a value is made of: named records, tagged values, lists
  and atoms.  It has two layouts of the same content:

  * `Dump.line` puts everything on one line;
  * `Dump.block` gives each part a line of its own, four columns further in
    than what it is part of, with a comma after every part.
-/
import DeviceMail.Text.Quoted

namespace DeviceMail

/-- The structure of a value. -/
inductive Dump where
  /-- A text that stands for itself, such as a number or a bare tag. -/
  | atom (text : List Char)
  /-- A named record with its fields in order. -/
  | record (name : String) (fields : List (String × Dump))
  /-- A tag applied to its arguments. -/
  | tagged (tag : String) (arguments : List Dump)
  /-- A list. -/
  | list (items : List Dump)

namespace Dump

/-! ## Atoms and optional values -/

/-- A string, between quotes. -/
def string (text : String) : Dump := .atom (Text.quoted text)

/-- A count. -/
def count (n : Nat) : Dump := .atom (Decimal.digits n)

/-- An integer. -/
def integer (z : Int) : Dump := .atom (Decimal.signed z)

/-- A truth value. -/
def bool (b : Bool) : Dump := .atom (if b then "true".toList else "false".toList)

/-- A value that may be absent: `None`, or the value under the tag `Some`. -/
def option {α : Type} (dump : α → Dump) : Option α → Dump
  | none => .atom "None".toList
  | some a => .tagged "Some" [dump a]

/-! ## On one line -/

mutual

/-- The layout on one line. -/
def line : Dump → List Char
  | .atom text => text
  | .record name fields =>
    name.toList ++ [' ', '\x7b', ' '] ++ [',', ' '].intercalate (fieldLines fields) ++ [' ', '\x7d']
  | .tagged tag arguments =>
    tag.toList ++ ['('] ++ [',', ' '].intercalate (itemLines arguments) ++ [')']
  | .list items => ['['] ++ [',', ' '].intercalate (itemLines items) ++ [']']

/-- The fields of a record, each as `name: value`. -/
def fieldLines : List (String × Dump) → List (List Char)
  | [] => []
  | (name, value) :: rest => (name.toList ++ [':', ' '] ++ line value) :: fieldLines rest

/-- Each item on a line. -/
def itemLines : List Dump → List (List Char)
  | [] => []
  | item :: rest => line item :: itemLines rest

end

/-! ## One part per line -/

/-- The margin of a part `depth` levels in. -/
def margin (depth : Nat) : List Char := List.replicate (4 * depth) ' '

mutual

/-- The layout with one part per line, for a value whose first line has already
    been begun `depth` levels in. -/
def block (depth : Nat) : Dump → List Char
  | .atom text => text
  | .record name fields =>
    name.toList ++ [' ', '\x7b', '\n'] ++ fieldBlocks (depth + 1) fields ++ margin depth ++ ['\x7d']
  | .tagged tag arguments =>
    tag.toList ++ ['(', '\n'] ++ itemBlocks (depth + 1) arguments ++ margin depth ++ [')']
  | .list [] => ['[', ']']
  | .list (item :: rest) =>
    ['[', '\n'] ++ itemBlocks (depth + 1) (item :: rest) ++ margin depth ++ [']']

/-- The fields of a record, each on lines of its own. -/
def fieldBlocks (depth : Nat) : List (String × Dump) → List Char
  | [] => []
  | (name, value) :: rest =>
    margin depth ++ name.toList ++ [':', ' '] ++ block depth value ++ [',', '\n'] ++
      fieldBlocks depth rest

/-- Each item on lines of its own. -/
def itemBlocks (depth : Nat) : List Dump → List Char
  | [] => []
  | item :: rest => margin depth ++ block depth item ++ [',', '\n'] ++ itemBlocks depth rest

end

/-! ## As strings -/

/-- The text on one line. -/
def lineText (d : Dump) : String := .ofList d.line

/-- The text with one part per line. -/
def blockText (d : Dump) : String := .ofList (d.block 0)

example : lineText (.record "P" [("n", .option .string (some "a\"b")), ("k", .list [])]) =
    "P \x7b n: Some(\"a\\\"b\"), k: [] \x7d" := by cbv

end Dump

end DeviceMail
