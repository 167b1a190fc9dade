/-
# Bytes on the wire

A wire image is a list of bytes; numbers wider than a byte lie in it with the
low byte first.  `le16`/`le32` write a number, `ofLE16`/`ofLE32` read one back.
-/

set_option autoImplicit false

namespace ControllerLink

/-- A string of bytes, first byte first. -/
abbrev Bytes := List UInt8

namespace Bytes

/-- The two bytes of a 16-bit number, low byte first. -/
def le16 (n : UInt16) : Bytes :=
  [n.toUInt8, (n >>> 8).toUInt8]

/-- The four bytes of a 32-bit number, low byte first. -/
def le32 (n : UInt32) : Bytes :=
  [n.toUInt8, (n >>> 8).toUInt8, (n >>> 16).toUInt8, (n >>> 24).toUInt8]

/-- The 16-bit number with the given low and high byte. -/
def join16 (lo hi : UInt8) : UInt16 :=
  lo.toUInt16 ||| (hi.toUInt16 <<< 8)

/-- The 32-bit number with the given bytes, low byte first. -/
def join32 (a b c d : UInt8) : UInt32 :=
  a.toUInt32 ||| (b.toUInt32 <<< 8) ||| (c.toUInt32 <<< 16) ||| (d.toUInt32 <<< 24)

/-- The 16-bit number at the front of `bytes`; zero when there are too few. -/
def ofLE16 : Bytes → UInt16
  | a :: b :: _ => join16 a b
  | _ => 0

/-- The 32-bit number at the front of `bytes`; zero when there are too few. -/
def ofLE32 : Bytes → UInt32
  | a :: b :: c :: d :: _ => join32 a b c d
  | _ => 0

/-- `buffer` cut, or filled up with zeros, to `size` bytes. -/
def resize (buffer : Bytes) (size : Nat) : Bytes :=
  buffer.take size ++ List.replicate (size - buffer.length) 0

/-- `buffer` with `chunk` written over it from position `pos` on. -/
def overwrite (buffer : Bytes) (pos : Nat) (chunk : Bytes) : Bytes :=
  buffer.take pos ++ chunk ++ buffer.drop (pos + chunk.length)

theorem length_le16 (n : UInt16) : (le16 n).length = 2 := rfl

theorem length_le32 (n : UInt32) : (le32 n).length = 4 := rfl

end Bytes

end ControllerLink
