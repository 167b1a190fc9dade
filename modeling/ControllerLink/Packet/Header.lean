/-
# Packet headers

A packet opens with five bytes: a start marker, a message id, the payload
length (low byte first) and an 8-bit checksum of those four bytes.
-/
import ControllerLink.Checksum

set_option autoImplicit false

namespace ControllerLink

/-- The header of a packet. -/
structure Header where
  start : UInt8
  id : UInt8
  length : UInt16
  checksum : UInt8
deriving DecidableEq, Repr, Inhabited

namespace Header

/-- Bytes of a header. -/
def size : Nat := 5

/-- Bytes of the checksum at the end of a packet. -/
def checksumSize : Nat := 2

/-- The bytes of a header that its checksum covers. -/
def fieldBytes (start id : UInt8) (length : UInt16) : Bytes :=
  start :: id :: Bytes.le16 length

/-- The header for a payload length, with its proper checksum. -/
def make (start id : UInt8) (length : UInt16) : Header :=
  ⟨start, id, length, Checksum.checksum8 (fieldBytes start id length)⟩

/-- The four bytes before the checksum. -/
def fields (h : Header) : Bytes :=
  fieldBytes h.start h.id h.length

/-- The five bytes of a header. -/
def toBytes (h : Header) : Bytes :=
  h.fields ++ [h.checksum]

/-- Whether the checksum matches the fields. -/
def isValid (h : Header) : Bool :=
  Checksum.checksum8 h.fields == h.checksum

/-- The bytes of the whole packet that the header announces. -/
def packetSize (h : Header) : Nat :=
  size + h.length.toNat + checksumSize

/-- The header at the front of `bytes`, if there are five of them. -/
def ofBytes? : Bytes → Option Header
  | start :: id :: lo :: hi :: checksum :: _ => some ⟨start, id, Bytes.join16 lo hi, checksum⟩
  | _ => none

end Header

end ControllerLink
