/-
  DeviceMail — bytes in base64, with the standard alphabet.

  Six bits make a symbol, so three bytes make a quad of four symbols; a text
  that ends inside a quad may be filled up with `=`, or not.

  * `encode` and `encodeUnpadded` write bytes;
  * `decode` reads them and refuses everything that no writer produces: other
    characters, misplaced padding, a lone symbol in the last quad, and bits
    that belong to no byte.  The last chunk of up to eight characters is the
    only place where padding is looked for; before it a `=` is a character
    like any other.
-/
import DeviceMail.Text.Bytes
import DeviceMail.Text.Dump

namespace DeviceMail.Base64

/-! ## Symbols -/

/-- The padding character, `=`. -/
def padding : UInt8 := 61

/-- The symbol of a six-bit value: `A`–`Z`, `a`–`z`, `0`–`9`, `+`, `/`. -/
def symbol (value : Nat) : UInt8 :=
  if value < 26 then UInt8.ofNat (65 + value)
  else if value < 52 then UInt8.ofNat (97 + (value - 26))
  else if value < 62 then UInt8.ofNat (48 + (value - 52))
  else if value = 62 then 43
  else 47

/-- The six-bit value of a symbol. -/
def value? (byte : UInt8) : Option Nat :=
  let code := byte.toNat
  if 65 ≤ code ∧ code ≤ 90 then some (code - 65)
  else if 97 ≤ code ∧ code ≤ 122 then some (code - 97 + 26)
  else if 48 ≤ code ∧ code ≤ 57 then some (code - 48 + 52)
  else if code = 43 then some 62
  else if code = 47 then some 63
  else none

/-! ## Writing -/

/-- The six-bit values of bytes.  A last group of one or two bytes is completed
    with zero bits. -/
def values : List UInt8 → List Nat
  | [] => []
  | [a] => [a.toNat / 4, a.toNat % 4 * 16]
  | [a, b] => [a.toNat / 4, a.toNat % 4 * 16 + b.toNat / 16, b.toNat % 16 * 4]
  | a :: b :: c :: rest =>
    a.toNat / 4 :: (a.toNat % 4 * 16 + b.toNat / 16) :: (b.toNat % 16 * 4 + c.toNat / 64) ::
      c.toNat % 64 :: values rest

/-- The encoding without padding. -/
def encodeUnpadded (bytes : List UInt8) : List UInt8 := (values bytes).map symbol

/-- The encoding, its last quad filled up with padding. -/
def encode (bytes : List UInt8) : List UInt8 :=
  let symbols := encodeUnpadded bytes
  symbols ++ List.replicate ((4 - symbols.length % 4) % 4) padding

/-- Base64 characters as a text. -/
def asText (symbols : List UInt8) : String := .ofList (symbols.map fun b => Char.ofNat b.toNat)

/-! ## Faults -/

/-- Why a text is not base64. -/
inductive Fault where
  /-- A byte may not stand where it stands. -/
  | stray (offset : Nat) (byte : UInt8)
  /-- The last quad has a single symbol, which is less than a byte. -/
  | loneSymbol
  /-- The last symbol has bits that belong to no byte. -/
  | unusedBits (offset : Nat) (byte : UInt8)
  deriving DecidableEq, Repr

/-- What is said about the text. -/
def Fault.text : Fault → String
  | .stray offset byte =>
    "Invalid byte " ++ Decimal.text byte.toNat ++ ", offset " ++ Decimal.text offset ++ "."
  | .loneSymbol => "Encoded text cannot have a 6-bit remainder."
  | .unusedBits offset byte =>
    "Invalid last symbol " ++ Decimal.text byte.toNat ++ ", offset " ++ Decimal.text offset ++ "."

/-- The structure of the fault. -/
def Fault.dump : Fault → Dump
  | .stray offset byte => .tagged "InvalidByte" [.count offset, .count byte.toNat]
  | .loneSymbol => .atom "InvalidLength".toList
  | .unusedBits offset byte => .tagged "InvalidLastSymbol" [.count offset, .count byte.toNat]

/-! ## Reading -/

/-- The values of symbols that may hold no padding, the first of them at
    `offset`. -/
def readSymbols (offset : Nat) : List UInt8 → Except Fault (List Nat)
  | [] => .ok []
  | byte :: rest =>
    match value? byte with
    | none => .error (.stray offset byte)
    | some value => (readSymbols (offset + 1) rest).map (value :: ·)

/-- The values of the symbols of the last chunk, which begins at a multiple of
    four.  Padding belongs to the second half of a quad and nothing follows it;
    where that is broken, the first padding character, at `padded`, is to
    blame. -/
def readLastSymbols (offset : Nat) (padded : Option Nat) :
    List UInt8 → Except Fault (List Nat)
  | [] => .ok []
  | byte :: rest =>
    if byte = padding then
      if offset % 4 < 2 then .error (.stray (padded.getD offset) padding)
      else readLastSymbols (offset + 1) (some (padded.getD offset)) rest
    else
      match padded with
      | some first => .error (.stray first padding)
      | none =>
        match value? byte with
        | none => .error (.stray offset byte)
        | some value => (readLastSymbols (offset + 1) none rest).map (value :: ·)

/-- The bytes that six-bit values make up.  Bits that fill no byte are left
    out. -/
def pack : List Nat → List UInt8
  | a :: b :: c :: d :: rest =>
    UInt8.ofNat (a * 4 + b / 16) :: UInt8.ofNat (b % 16 * 16 + c / 4) ::
      UInt8.ofNat (c % 4 * 64 + d) :: pack rest
  | [a, b, c] => [UInt8.ofNat (a * 4 + b / 16), UInt8.ofNat (b % 16 * 16 + c / 4)]
  | [a, b] => [UInt8.ofNat (a * 4 + b / 16)]
  | _ => []

/-- The bits that `pack` leaves out, as a number. -/
def leftover (values : List Nat) : Nat :=
  if values.length % 4 = 2 then values.getLastD 0 % 16
  else if values.length % 4 = 3 then values.getLastD 0 % 4
  else 0

/-- Where the last chunk of up to eight characters begins. -/
def lastChunk (length : Nat) : Nat := (length - 1) / 8 * 8

/-- The values of all symbols. -/
def readValues (input : List UInt8) : Except Fault (List Nat) := do
  let start := lastChunk input.length
  let front ← readSymbols 0 (input.take start)
  let last ← readLastSymbols start none (input.drop start)
  return front ++ last

/-- The bytes that base64 characters stand for. -/
def decode (input : List UInt8) : Except Fault (List UInt8) :=
  if input.length % 4 = 1 then .error .loneSymbol
  else
    match readValues input with
    | .error fault => .error fault
    | .ok values =>
      if leftover values = 0 then .ok (pack values)
      else .error (.unusedBits (values.length - 1) (symbol (values.getLastD 0)))

/-- The bytes that a text stands for. -/
def decodeText (text : String) : Except Fault (List UInt8) := decode (Text.utf8 text)

example : decodeText "aGk=" = .ok [104, 105] := by cbv
example : decodeText "aGl=" = .error (.unusedBits 2 108) := by cbv
example : decodeText "aG=k" = .error (.stray 2 padding) := by cbv

end DeviceMail.Base64
