/-
# Single-precision values

A single-precision number is kept as its bit pattern, so that a record read
and written again is the same to the last bit, whatever the number is.
-/
import ControllerLink.Decimal.Numeral

set_option autoImplicit false

namespace ControllerLink

/-- A single-precision number by its bit pattern. -/
structure Single where
  bits : UInt32
deriving DecidableEq, Repr, Inhabited

namespace Single

/-- The number as the machine computes with it. -/
def toFloat32 (x : Single) : Float32 := Float32.ofBits x.bits

/-- The single-precision number nearest to an integer. -/
def ofInt (n : Int) : Single :=
  ⟨UInt32.ofNat (binary32.withSign (n < 0) (binary32.ofNat n.natAbs))⟩

/-- The single-precision number nearest to a double-precision one. -/
def ofDouble (bits : UInt64) : Single :=
  ⟨UInt32.ofNat (binary64.convert binary32 bits.toNat)⟩

/-- The same number in double precision. -/
def toDouble (x : Single) : UInt64 :=
  UInt64.ofNat (binary32.convert binary64 x.bits.toNat)

/-- The number where it stands alone in a line of text. -/
def text (x : Single) : String :=
  String.ofList (NumeralStyle.plain.text x.bits.toNat)

end Single

end ControllerLink
