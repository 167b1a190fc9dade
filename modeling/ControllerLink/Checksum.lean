/-
# Cyclic redundancy checks

Both checks of the packet format are reflected (least significant bit first),
start from an all-ones register and end without a final complement.  The
register is a bit vector, one step shifts one bit out, so a check is linear in
exclusive or; `checksum8` guards a header and `checksum16` a whole packet.
-/
import ControllerLink.Bytes

set_option autoImplicit false

namespace ControllerLink

/-- A reflected cyclic redundancy check with a register of `w` bits. -/
structure Crc (w : Nat) where
  /-- The generator, lowest power in the highest bit. -/
  poly : BitVec w
  /-- The register before the first byte. -/
  start : BitVec w

namespace Crc

variable {w : Nat}

/-- Shift one bit out of the register, subtracting the generator if it was set. -/
def shift (c : Crc w) (register : BitVec w) : BitVec w :=
  if register.getLsbD 0 then (register >>> 1) ^^^ c.poly else register >>> 1

/-- Shift `n` bits out of the register. -/
def shifts (c : Crc w) : Nat → BitVec w → BitVec w
  | 0, register => register
  | n + 1, register => c.shifts n (c.shift register)

/-- Take one byte into the register. -/
def absorb (c : Crc w) (register : BitVec w) (byte : UInt8) : BitVec w :=
  c.shifts 8 (register ^^^ byte.toBitVec.setWidth w)

/-- The register after `bytes`, from a given register. -/
def run (c : Crc w) (register : BitVec w) (bytes : Bytes) : BitVec w :=
  bytes.foldl c.absorb register

/-- The check value of `bytes`. -/
def compute (c : Crc w) (bytes : Bytes) : BitVec w :=
  c.run c.start bytes

theorem run_append (c : Crc w) (register : BitVec w) (front back : Bytes) :
    c.run register (front ++ back) = c.run (c.run register front) back :=
  List.foldl_append

end Crc

namespace Checksum

/-- The 8-bit check of a header: generator x⁸ + x⁵ + x⁴ + 1. -/
def header : Crc 8 := ⟨0x8c, 0xff⟩

/-- The 16-bit check of a packet: generator x¹⁶ + x¹² + x⁵ + 1. -/
def packet : Crc 16 := ⟨0x8408, 0xffff⟩

/-- The 8-bit checksum of `bytes`. -/
def checksum8 (bytes : Bytes) : UInt8 :=
  ⟨header.compute bytes⟩

/-- The 16-bit checksum of `bytes`. -/
def checksum16 (bytes : Bytes) : UInt16 :=
  ⟨packet.compute bytes⟩

/-- `bytes` followed by its 8-bit checksum. -/
def append8 (bytes : Bytes) : Bytes :=
  bytes ++ [checksum8 bytes]

/-- `bytes` followed by its 16-bit checksum, low byte first. -/
def append16 (bytes : Bytes) : Bytes :=
  bytes ++ Bytes.le16 (checksum16 bytes)

/-- Whether the last byte is the checksum of the bytes before it. -/
def verify8 (bytes : Bytes) : Bool :=
  match bytes.getLast? with
  | some last => checksum8 bytes.dropLast == last
  | none => false

/-- Whether the last two bytes are the checksum of the bytes before them. -/
def verify16 (bytes : Bytes) : Bool :=
  let body := bytes.length - 2
  2 ≤ bytes.length && checksum16 (bytes.take body) == Bytes.ofLE16 (bytes.drop body)

end Checksum

end ControllerLink
