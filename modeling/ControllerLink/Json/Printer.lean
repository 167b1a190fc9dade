/-
# JSON text

`render` writes a value without any blanks, `renderIndented` one member or item
a line.  In strings only quotes, backslashes and control characters below the
space are escaped.
-/
import ControllerLink.Json.Value
import ControllerLink.Text.Hex

set_option autoImplicit false

namespace ControllerLink

namespace Json

/-- Single-precision numbers in JSON: digits stand in place from `10^-6` to
`10^12`, and a whole number ends in `.0`. -/
def singleStyle : NumeralStyle := ⟨binary32, .even, some (-6, 12), true⟩

/-- Double-precision numbers in JSON: digits stand in place from `10^-5` to
`10^15`, and a whole number ends in `.0`. -/
def doubleStyle : NumeralStyle := ⟨binary64, .even, some (-5, 15), true⟩

/-- One character of a string. -/
def escapeChar (c : Char) : List Char :=
  if c = '"' then ['\\', '"']
  else if c = '\\' then ['\\', '\\']
  else if c = '\x08' then ['\\', 'b']
  else if c = '\x0c' then ['\\', 'f']
  else if c = '\n' then ['\\', 'n']
  else if c = '\r' then ['\\', 'r']
  else if c = '\t' then ['\\', 't']
  else if c.val < 0x20 then '\\' :: 'u' :: (Text.hexDigits 4 c.toNat).toList
  else [c]

/-- A string between quotes. -/
def renderString (s : String) : String :=
  "\"" ++ String.ofList (s.toList.flatMap escapeChar) ++ "\""

/-- A number, `null` when it is not finite. -/
def renderNumber (style : NumeralStyle) (bits : Nat) : String :=
  match style.finite? bits with
  | some text => String.ofList text
  | none => "null"

mutual

/-- The text of a value. -/
def render : Json → String
  | null => "null"
  | bool true => "true"
  | bool false => "false"
  | int n => toString n
  | single x => renderNumber singleStyle x.bits.toNat
  | double bits => renderNumber doubleStyle bits.toNat
  | str s => renderString s
  | arr items => "[" ++ renderItems items ++ "]"
  | obj members => "\x7b" ++ renderMembers members ++ "\x7d"

/-- Items separated by commas. -/
def renderItems : List Json → String
  | [] => ""
  | [item] => render item
  | item :: items => render item ++ "," ++ renderItems items

/-- Members separated by commas. -/
def renderMembers : List (String × Json) → String
  | [] => ""
  | [(name, value)] => renderString name ++ ":" ++ render value
  | (name, value) :: members =>
    renderString name ++ ":" ++ render value ++ "," ++ renderMembers members

end

/-- The start of a line at a depth. -/
def newline (depth : Nat) : String :=
  "\n" ++ String.ofList (List.replicate (2 * depth) ' ')

mutual

/-- The text of a value with one item or member a line. -/
def renderIndented (depth : Nat) : Json → String
  | arr [] => "[]"
  | arr items => "[" ++ indentedItems (depth + 1) items ++ newline depth ++ "]"
  | obj [] => "\x7b\x7d"
  | obj members => "\x7b" ++ indentedMembers (depth + 1) members ++ newline depth ++ "\x7d"
  | null => render null
  | bool b => render (bool b)
  | int n => render (int n)
  | single x => render (single x)
  | double bits => render (double bits)
  | str s => render (str s)

/-- Items, each on a line of its own. -/
def indentedItems (depth : Nat) : List Json → String
  | [] => ""
  | [item] => newline depth ++ renderIndented depth item
  | item :: items => newline depth ++ renderIndented depth item ++ "," ++ indentedItems depth items

/-- Members, each on a line of its own. -/
def indentedMembers (depth : Nat) : List (String × Json) → String
  | [] => ""
  | [(name, value)] => newline depth ++ renderString name ++ ": " ++ renderIndented depth value
  | (name, value) :: members =>
    newline depth ++ renderString name ++ ": " ++ renderIndented depth value ++ "," ++
      indentedMembers depth members

end

end Json

end ControllerLink
