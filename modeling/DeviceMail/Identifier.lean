/-
  DeviceMail — identifiers for messages.

  * `Uuid` is an identifier of random bits, which come from outside;
  * `NumberedIds` hands out identifiers that end in a running number;
  * `IdSource` is one way or the other of getting identifiers: `draw` takes the
    next one, `drawPair` the two that a new message needs.
-/
import DeviceMail.Text.Dump

namespace DeviceMail

/-! ## Random identifiers -/

/-- A universally unique identifier. -/
structure Uuid where
  bits : BitVec 128
  deriving DecidableEq, Repr

namespace Uuid

/-- The identifier made of random bits.  Four of them give way to the version,
    4, and two to the variant. -/
def ofRandom (random : BitVec 128) : Uuid :=
  let version : BitVec 128 := 0xF000#128 <<< 64
  let variant : BitVec 128 := 0xC000#128 <<< 48
  ⟨random &&& ~~~version &&& ~~~variant ||| 0x4000#128 <<< 64 ||| 0x8000#128 <<< 48⟩

/-- The hexadecimal digits of the bits in groups of 8, 4, 4, 4 and 12, with
    dashes between the groups. -/
def text (uuid : Uuid) : String :=
  let digits := Decimal.paddedHex 32 uuid.bits.toNat
  let group (start size : Nat) := (digits.drop start).take size
  .ofList (group 0 8 ++ '-' :: group 8 4 ++ '-' :: group 12 4 ++ '-' :: group 16 4 ++
    '-' :: group 20 12)

/-- Whether a character is a lower-case hexadecimal digit. -/
def isHexDigit (c : Char) : Bool := c.isDigit || ('a' ≤ c && c ≤ 'f')

/-- Whether a character may stand at a position of a random identifier. -/
def fitsAt (position : Nat) (c : Char) : Bool :=
  if position = 8 ∨ position = 13 ∨ position = 18 ∨ position = 23 then c == '-'
  else if position = 14 then c == '4'
  else if position = 19 then c == '8' || c == '9' || c == 'a' || c == 'b'
  else isHexDigit c

/-- Whether a text has the shape of a random identifier. -/
def isRandomText (text : List Char) : Bool :=
  text.length == 36 && text.zipIdx.all fun (c, position) => fitsAt position c

example : isRandomText (ofRandom 0).text.toList = true := by cbv

end Uuid

/-! ## Running numbers -/

/-- Identifiers that end in a running number.  The first is `stem-1`. -/
structure NumberedIds where
  stem : String
  /-- How many identifiers have been handed out. -/
  issued : UInt64 := 0
  deriving DecidableEq, Repr

namespace NumberedIds

/-- The identifier that ends in `number`. -/
def nth (stem : String) (number : Nat) : String := stem ++ "-" ++ Decimal.text number

/-- The next identifier, and what hands out those after it. -/
def draw (ids : NumberedIds) : String × NumberedIds :=
  let issued := ids.issued + 1
  (nth ids.stem issued.toNat, { ids with issued })

/-- The structure of numbered identifiers. -/
def dump (ids : NumberedIds) : Dump :=
  .record "SequentialIdGenerator"
    [("prefix", .string ids.stem), ("value", .count ids.issued.toNat)]

end NumberedIds

/-! ## Sources -/

/-- The two identifiers of a new message. -/
structure IdPair where
  messageId : String
  correlationId : String
  deriving DecidableEq, Repr

/-- Where identifiers come from. -/
inductive IdSource where
  /-- Each one is random. -/
  | random
  /-- They are numbered. -/
  | numbered (ids : NumberedIds)
  deriving DecidableEq, Repr

namespace IdSource

/-- The next identifier, and the source after it.  A random source hands out
    `fresh`. -/
def draw (fresh : String) : IdSource → String × IdSource
  | .random => (fresh, .random)
  | .numbered ids =>
    let (id, ids) := ids.draw
    (id, .numbered ids)

/-- The identifiers of a new message: its own first, then the one by which it
    is correlated. -/
def drawPair (fresh : IdPair) (source : IdSource) : IdPair × IdSource :=
  let (messageId, source) := source.draw fresh.messageId
  let (correlationId, source) := source.draw fresh.correlationId
  (⟨messageId, correlationId⟩, source)

end IdSource

end DeviceMail
