/-
  DeviceMail — JSON values as text.

  * `escape` writes one character of a string: only quotes, backslashes and
    the controls below the space need an escape;
  * `Layout` says which blanks go between the tokens: none (`compact`), or a
    line per item, two columns further in at each level (`indented`);
  * `render` writes a value in a layout.
-/
import DeviceMail.Json.Basic
import DeviceMail.Text.Decimal

namespace DeviceMail.Json

/-! ## Strings -/

/-- One character of a string. -/
def escape (c : Char) : List Char :=
  if c = '"' then ['\\', '"']
  else if c = '\\' then ['\\', '\\']
  else if c = '\x08' then ['\\', 'b']
  else if c = '\t' then ['\\', 't']
  else if c = '\n' then ['\\', 'n']
  else if c = '\x0c' then ['\\', 'f']
  else if c = '\r' then ['\\', 'r']
  else if c.toNat < 0x20 then ['\\', 'u'] ++ Decimal.paddedHex 4 c.toNat
  else [c]

/-- A string between quotes. -/
def quoted (text : String) : List Char := '"' :: (text.toList.flatMap escape ++ ['"'])

/-! ## Values -/

/-- The blanks between tokens. -/
structure Layout where
  /-- What goes before an item, or before the bracket that closes the items,
      at the given depth. -/
  lineBreak : Nat → List Char
  /-- What goes after a colon. -/
  gap : List Char

/-- No blanks at all. -/
def Layout.compact : Layout := ⟨fun _ => [], []⟩

/-- A line for each item, two columns further in at each level. -/
def Layout.indented : Layout := ⟨fun depth => '\n' :: List.replicate (2 * depth) ' ', [' ']⟩

mutual

/-- The text of a value that begins `depth` levels in.  Brackets with nothing
    between them stay on one line. -/
def render (layout : Layout) (depth : Nat) : Json → List Char
  | .null => "null".toList
  | .bool true => "true".toList
  | .bool false => "false".toList
  | .number value => Decimal.signed value
  | .string text => quoted text
  | .array [] => ['[', ']']
  | .array (item :: rest) =>
    '[' :: layout.lineBreak (depth + 1) ++ render layout (depth + 1) item ++
      renderItems layout (depth + 1) rest ++ layout.lineBreak depth ++ [']']
  | .object [] => ['\x7b', '\x7d']
  | .object ((name, value) :: rest) =>
    '\x7b' :: layout.lineBreak (depth + 1) ++ quoted name ++ ':' :: layout.gap ++
      render layout (depth + 1) value ++ renderFields layout (depth + 1) rest ++
      layout.lineBreak depth ++ ['\x7d']

/-- The items after the first, each after a comma. -/
def renderItems (layout : Layout) (depth : Nat) : List Json → List Char
  | [] => []
  | item :: rest =>
    ',' :: layout.lineBreak depth ++ render layout depth item ++ renderItems layout depth rest

/-- The fields after the first, each after a comma. -/
def renderFields (layout : Layout) (depth : Nat) : List (String × Json) → List Char
  | [] => []
  | (name, value) :: rest =>
    ',' :: layout.lineBreak depth ++ quoted name ++ ':' :: layout.gap ++
      render layout depth value ++ renderFields layout depth rest

end

/-- The text without blanks. -/
def compact (value : Json) : String := .ofList (value.render .compact 0)

/-- The text with a line for each item. -/
def pretty (value : Json) : String := .ofList (value.render .indented 0)

example : compact (.object [("a", .array [.null, .bool true]), ("b", .string "\n\x01")]) =
    "\x7b\"a\":[null,true],\"b\":\"\\n\\u0001\"\x7d" := by cbv
example : pretty (.array [.number (-5), .array []]) = "[\n  -5,\n  []\n]" := by cbv

end DeviceMail.Json
