/-
  DeviceMail — reading JSON text.

  * `read? text` is the value that a text denotes, if the whole text is one
    value with blanks around its tokens.  All escapes of a string are read,
    pairs of surrogates included; a number with a fraction or an exponent is
    no integer and is refused.
-/
import DeviceMail.Json.Basic
import DeviceMail.Text.Decimal

namespace DeviceMail.Json

/-- The blanks that may stand between tokens. -/
def isBlank (c : Char) : Bool := c = ' ' || c = '\n' || c = '\r' || c = '\t'

/-- The text after its leading blanks. -/
def skipBlanks (s : List Char) : List Char := s.dropWhile isBlank

/-! ## Strings -/

/-- The value of a hexadecimal digit, in either case. -/
def hexDigit? (c : Char) : Option Nat :=
  if '0' ≤ c ∧ c ≤ '9' then some (c.toNat - '0'.toNat)
  else if 'a' ≤ c ∧ c ≤ 'f' then some (c.toNat - 'a'.toNat + 10)
  else if 'A' ≤ c ∧ c ≤ 'F' then some (c.toNat - 'A'.toNat + 10)
  else none

/-- The number in the next four hexadecimal digits. -/
def readUnit : List Char → Option (Nat × List Char)
  | a :: b :: c :: d :: rest => do
    let a ← hexDigit? a
    let b ← hexDigit? b
    let c ← hexDigit? c
    let d ← hexDigit? d
    return (((a * 16 + b) * 16 + c) * 16 + d, rest)
  | _ => none

/-- The character after `\u`: four digits for a code point, or eight with a
    `\u` between them for the two surrogates of one. -/
def readCodePoint (s : List Char) : Option (Char × List Char) := do
  let (u, rest) ← readUnit s
  if 0xD800 ≤ u ∧ u < 0xDC00 then
    match rest with
    | '\\' :: 'u' :: rest =>
      let (v, rest) ← readUnit rest
      if 0xDC00 ≤ v ∧ v < 0xE000 then
        return (Char.ofNat (0x10000 + (u - 0xD800) * 0x400 + (v - 0xDC00)), rest)
      else none
    | _ => none
  else if 0xDC00 ≤ u ∧ u < 0xE000 then none
  else return (Char.ofNat u, rest)

/-- The character that the text after a backslash stands for. -/
def readEscape : List Char → Option (Char × List Char)
  | [] => none
  | c :: rest =>
    if c = 'u' then readCodePoint rest
    else if c = '"' ∨ c = '\\' ∨ c = '/' then some (c, rest)
    else if c = 'b' then some ('\x08', rest)
    else if c = 'f' then some ('\x0c', rest)
    else if c = 'n' then some ('\n', rest)
    else if c = 'r' then some ('\r', rest)
    else if c = 't' then some ('\t', rest)
    else none

/-- The characters up to the closing quote.  Every character takes one unit of
    `fuel`, so the length of the text is enough. -/
def readCharacters : (fuel : Nat) → List Char → Option (List Char × List Char)
  | 0, _ | _, [] => none
  | fuel + 1, c :: rest =>
    if c = '"' then some ([], rest)
    else if c = '\\' then do
      let (d, rest) ← readEscape rest
      let (text, rest) ← readCharacters fuel rest
      return (d :: text, rest)
    else if c.toNat < 0x20 then none
    else do
      let (text, rest) ← readCharacters fuel rest
      return (c :: text, rest)

/-- The string whose opening quote has been read. -/
def readString (s : List Char) : Option (String × List Char) := do
  let (text, rest) ← readCharacters s.length s
  return (.ofList text, rest)

/-! ## Numbers -/

/-- The number that decimal digits denote, most significant first. -/
def numeral (digits : List Char) : Nat :=
  digits.foldl (fun value c => value * 10 + (c.toNat - '0'.toNat)) 0

/-- Digits without a leading zero, and no fraction or exponent after them. -/
def readNatural (s : List Char) : Option (Nat × List Char) :=
  let digits := s.takeWhile Char.isDigit
  let rest := s.dropWhile Char.isDigit
  if digits = [] ∨ (digits.head? = some '0' ∧ digits.length ≠ 1) then none
  else if rest.head? = some '.' ∨ rest.head? = some 'e' ∨ rest.head? = some 'E' then none
  else some (numeral digits, rest)

/-- An integer. -/
def readNumber : List Char → Option (Int × List Char)
  | '-' :: rest => (readNatural rest).map fun (n, rest) => (-(n : Int), rest)
  | s => (readNatural s).map fun (n, rest) => ((n : Int), rest)

/-! ## Values -/

/-- The text after an expected word. -/
def afterWord (word s : List Char) : Option (List Char) :=
  if word.isPrefixOf s then some (s.drop word.length) else none

mutual

/-- The value at the start of a text.  Every token takes at most one unit of
    `fuel`, so the length of the text and one more are enough. -/
def readValue : (fuel : Nat) → List Char → Option (Json × List Char)
  | 0, _ => none
  | fuel + 1, s =>
    match skipBlanks s with
    | [] => none
    | c :: rest =>
      if c = 'n' then (afterWord "ull".toList rest).map (.null, ·)
      else if c = 't' then (afterWord "rue".toList rest).map (.bool true, ·)
      else if c = 'f' then (afterWord "alse".toList rest).map (.bool false, ·)
      else if c = '"' then (readString rest).map fun (text, rest) => (.string text, rest)
      else if c = '[' then
        match afterWord [']'] (skipBlanks rest) with
        | some rest => some (.array [], rest)
        | none => (readItems fuel rest).map fun (items, rest) => (.array items, rest)
      else if c = '\x7b' then
        match afterWord ['\x7d'] (skipBlanks rest) with
        | some rest => some (.object [], rest)
        | none => (readFields fuel rest).map fun (fields, rest) => (.object fields, rest)
      else (readNumber (c :: rest)).map fun (value, rest) => (.number value, rest)

/-- At least one item, up to the closing bracket. -/
def readItems : (fuel : Nat) → List Char → Option (List Json × List Char)
  | 0, _ => none
  | fuel + 1, s => do
    let (item, rest) ← readValue fuel s
    match skipBlanks rest with
    | ',' :: rest =>
      let (items, rest) ← readItems fuel rest
      return (item :: items, rest)
    | ']' :: rest => return ([item], rest)
    | _ => none

/-- At least one field, up to the closing brace. -/
def readFields : (fuel : Nat) → List Char → Option (List (String × Json) × List Char)
  | 0, _ => none
  | fuel + 1, s => do
    let rest ← afterWord ['"'] (skipBlanks s)
    let (name, rest) ← readString rest
    let rest ← afterWord [':'] (skipBlanks rest)
    let (value, rest) ← readValue fuel rest
    match skipBlanks rest with
    | ',' :: rest =>
      let (fields, rest) ← readFields fuel rest
      return ((name, value) :: fields, rest)
    | '\x7d' :: rest => return ([(name, value)], rest)
    | _ => none

end

/-- The value that a whole text denotes. -/
def read? (text : String) : Option Json := do
  let s := text.toList
  let (value, rest) ← readValue (s.length + 1) s
  if skipBlanks rest = [] then return value else none

end DeviceMail.Json
