/-
  DeviceMail — whole numbers as text.

  * `digits n` and `signed z` are a number in decimal, as characters; `text` and
    `signedText` are the same as strings;
  * `padded w n` has zeros on the left, `hex n` is lower-case hexadecimal;
  * `readInt64` reads a 64-bit number, or says what is wrong with the text.
-/

namespace DeviceMail.Decimal

/-! ## Writing -/

/-- The decimal digits of `n`, most significant first, without leading zeros. -/
def digits (n : Nat) : List Char := Nat.toDigits 10 n

/-- The decimal digits of `n`, with zeros on the left up to `width` characters.
    A number with more digits is written in full. -/
def padded (width n : Nat) : List Char := (digits n).leftpad width '0'

/-- An integer in decimal, with a sign only below zero. -/
def signed : Int → List Char
  | .ofNat n => digits n
  | .negSucc n => '-' :: digits (n + 1)

/-- A number in decimal. -/
def text (n : Nat) : String := .ofList (digits n)

/-- An integer in decimal. -/
def signedText (z : Int) : String := .ofList (signed z)

/-- The lower-case hexadecimal digits of `n`, without leading zeros. -/
def hex (n : Nat) : List Char := Nat.toDigits 16 n

/-- The lower-case hexadecimal digits of `n`, with zeros on the left up to
    `width` characters. -/
def paddedHex (width n : Nat) : List Char := (hex n).leftpad width '0'

/-! ## Reading -/

/-- Why a text is not a 64-bit number. -/
inductive Fault where
  | empty
  | invalidDigit
  | tooLarge
  | tooSmall
  deriving DecidableEq, Repr

/-- What is said about the text. -/
def Fault.text : Fault → String
  | .empty => "cannot parse integer from empty string"
  | .invalidDigit => "invalid digit found in string"
  | .tooLarge => "number too large to fit in target type"
  | .tooSmall => "number too small to fit in target type"

/-- The value of a decimal digit. -/
def digit? (c : Char) : Option Nat :=
  if c.isDigit then some (c.toNat - '0'.toNat) else none

/-- Appends the digits to `value`, each with the sign `sign`.  The first
    character that is no digit, or that takes the value out of the 64-bit
    range, decides the fault. -/
def appendDigits (sign : Int) : Int → List Char → Except Fault Int
  | value, [] => .ok value
  | value, c :: rest =>
    match digit? c with
    | none => .error .invalidDigit
    | some d =>
      let next := value * 10 + sign * d
      if Int64.maxValue.toInt < next then .error .tooLarge
      else if next < Int64.minValue.toInt then .error .tooSmall
      else appendDigits sign next rest

/-- The integer that a text denotes: a sign, `+` or `-`, or none, and then at
    least one digit. -/
def readInteger : List Char → Except Fault Int
  | [] => .error .empty
  | c :: rest =>
    if c = '+' ∨ c = '-' then
      if rest = [] then .error .invalidDigit
      else appendDigits (if c = '-' then -1 else 1) 0 rest
    else appendDigits 1 0 (c :: rest)

/-- The 64-bit number that a text denotes. -/
def readInt64 (text : String) : Except Fault Int64 :=
  (readInteger text.toList).map Int64.ofInt

example : readInt64 "-9223372036854775808" = .ok Int64.minValue := by cbv
example : readInt64 "9223372036854775808" = .error .tooLarge := by cbv
example : readInt64 "+" = .error .invalidDigit := by cbv

end DeviceMail.Decimal
