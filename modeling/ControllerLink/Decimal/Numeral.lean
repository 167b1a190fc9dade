/-
# Numerals

How a decimal is laid out as text: with its digits in place, or with one digit
before the point and an exponent.
-/
import ControllerLink.Decimal.Shortest

set_option autoImplicit false

namespace ControllerLink

/-- The decisions of one way to write numbers. -/
structure NumeralStyle where
  /-- The numbers written: their format. -/
  format : BinaryFormat
  /-- Which of two equally near decimals is written. -/
  tie : Tie
  /-- The powers of ten of the first digit from and up to which digits stand in place. -/
  inPlace : Option (Int × Int)
  /-- Whether a whole number in place ends in `.0`. -/
  pointZero : Bool

namespace NumeralStyle

/-- Zeros. -/
def zeros (n : Nat) : List Char := List.replicate n '0'

/-- The digits of a positive decimal in their places. -/
def placed (style : NumeralStyle) (digits : List Char) (exponent : Int) : List Char :=
  let first := exponent + digits.length - 1
  if 0 ≤ exponent then
    digits ++ zeros exponent.toNat ++ if style.pointZero then ['.', '0'] else []
  else if 0 ≤ first then
    digits.take (first.toNat + 1) ++ '.' :: digits.drop (first.toNat + 1)
  else '0' :: '.' :: zeros ((-first).toNat - 1) ++ digits

/-- The digits of a positive decimal with an exponent, its sign always written. -/
def scientific (digits : List Char) (exponent : Int) : List Char :=
  let first := exponent + digits.length - 1
  let point := match digits with
    | [] => []
    | [d] => [d]
    | d :: ds => d :: '.' :: ds
  point ++ 'e' :: (if first < 0 then '-' else '+') :: Nat.toDigits 10 first.natAbs

/-- Whether a decimal whose first digit stands for `10^first` has its digits in place. -/
def isPlaced (style : NumeralStyle) (first : Int) : Bool :=
  match style.inPlace with
  | none => true
  | some (low, high) => low ≤ first && first ≤ high

/-- The text of the magnitude `m · 2^q`. -/
def magnitude (style : NumeralStyle) (m : Nat) (q : Int) : List Char :=
  if m = 0 then '0' :: if style.pointZero then ['.', '0'] else []
  else
    let d := Decimal.shortest style.format style.tie m q
    let digits := Nat.toDigits 10 d.digits
    if style.isPlaced (d.exponent + digits.length - 1) then style.placed digits d.exponent
    else scientific digits d.exponent

/-- The text of the number with a bit pattern, unless it is no finite number. -/
def finite? (style : NumeralStyle) (bits : Nat) : Option (List Char) :=
  match style.format.decode bits with
  | .finite negative m q =>
    let text := style.magnitude m q
    some (if negative then '-' :: text else text)
  | _ => none

/-- The text of the number with a bit pattern, with words for what is not finite. -/
def text (style : NumeralStyle) (bits : Nat) : List Char :=
  match style.format.decode bits with
  | .infinite negative => if negative then ['-', 'i', 'n', 'f'] else ['i', 'n', 'f']
  | .notANumber => ['N', 'a', 'N']
  | .finite .. => (style.finite? bits).getD []

/-- Single-precision numbers that stand alone: digits always in place, no `.0`. -/
def plain : NumeralStyle := ⟨binary32, .up, none, false⟩

end NumeralStyle

end ControllerLink
