/-
  DeviceMail — strings between quotes, as diagnostics show them.

  A quoted string is safe to read on one line: quotes, backslashes and hidden
  characters are written as escapes, everything else stays as it is.
-/
import DeviceMail.Text.Decimal
import DeviceMail.Text.Hidden

namespace DeviceMail.Text

/-- One character inside quotes.  A hidden character without a short escape is
    written as its code point in hexadecimal between braces. -/
def escape (c : Char) : List Char :=
  if c = '"' then ['\\', '"']
  else if c = '\\' then ['\\', '\\']
  else if c = '\n' then ['\\', 'n']
  else if c = '\r' then ['\\', 'r']
  else if c = '\t' then ['\\', 't']
  else if c = '\x00' then ['\\', '0']
  else if isHidden c then ['\\', 'u', '\x7b'] ++ Decimal.hex c.toNat ++ ['\x7d']
  else [c]

/-- A string between quotes, each character escaped where it has to be. -/
def quoted (text : String) : List Char := '"' :: (text.toList.flatMap escape ++ ['"'])

end DeviceMail.Text
