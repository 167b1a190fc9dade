/-
# Quoted text

How a text is shown inside a message: between double quotes, with quotes and
backslashes escaped, and with every character that cannot be seen on its own
written as its code point.
-/
import ControllerLink.Text.Combining
import ControllerLink.Text.Hex
import ControllerLink.Text.Unprintable

set_option autoImplicit false

namespace ControllerLink.Text

/-- One character of a quoted text. -/
def quotedChar (c : Char) : String :=
  if c = '"' then "\\\""
  else if c = '\\' then "\\\\"
  else if c = '\n' then "\\n"
  else if c = '\r' then "\\r"
  else if c = '\t' then "\\t"
  else if c = '\x00' then "\\0"
  else if c.val < 0x7f && 0x20 ≤ c.val then c.toString
  else if isCombining c || isUnprintable c then "\\u\x7b" ++ hexDigits 1 c.toNat ++ "\x7d"
  else c.toString

/-- A text between double quotes, every character of it visible. -/
def quoted (s : String) : String :=
  "\"" ++ String.join (s.toList.map quotedChar) ++ "\""

end ControllerLink.Text
