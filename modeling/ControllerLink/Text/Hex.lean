/-
# Hexadecimal numbers

A number in lower-case hexadecimal, padded with zeros to a least width.
-/
set_option autoImplicit false

namespace ControllerLink.Text

/-- `n` in hexadecimal with at least `width` digits. -/
def hexDigits (width n : Nat) : String :=
  let digits := Nat.toDigits 16 n
  String.ofList (List.replicate (width - digits.length) '0' ++ digits)

/-- `n` as `0x` and at least `width` hexadecimal digits. -/
def hex (width n : Nat) : String :=
  "0x" ++ hexDigits width n

end ControllerLink.Text
