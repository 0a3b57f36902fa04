/-
  DeviceMail — the bytes of a text.
-/

namespace DeviceMail.Text

/-- The UTF-8 bytes of a text, in order. -/
def utf8 (text : String) : List UInt8 := text.toUTF8.data.toList

example : utf8 "é" = [0xC3, 0xA9] := by cbv

end DeviceMail.Text
