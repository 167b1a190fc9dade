/-
# Verification

A check is usually given by parameters, for a register that is shifted towards
its highest bit; both checks of the packet format are the ones with reflected
input and output and without a final complement.  For these, bytes carry their
own checksum exactly when they have the checksum zero, and whatever stands
before it, there is exactly one checksum that completes it.

The bridge between the two ways of shifting is reversal: read backwards, a step
of a register that is shifted towards its highest bit is a step of one that is
shifted towards its lowest (`CrcParameters.reverse_shift`), and a byte that is
taken in backwards at the high end is a byte taken in at the low end. What
remains was said of residues.
-/
import ControllerLink.Proofs.Residue

set_option autoImplicit false

namespace ControllerLink

/-- The parameters of a cyclic redundancy check, the generator with its highest power first. -/
structure CrcParameters (w : Nat) where
  poly : BitVec w
  start : BitVec w
  /-- Whether the lowest bit of a byte is taken in first. -/
  reflectsInput : Bool
  /-- Whether the register is read backwards at the end. -/
  reflectsOutput : Bool
  /-- What is added to the register at the end. -/
  complement : BitVec w

namespace CrcParameters

variable {w : Nat} (p : CrcParameters w)

/-- Shift the highest bit out of the register, subtracting the generator if it was set. -/
def shift (register : BitVec w) : BitVec w :=
  if register.msb then register <<< 1 ^^^ p.poly else register <<< 1

/-- Shift `n` bits out of the register. -/
def shifts : Nat → BitVec w → BitVec w
  | 0, register => register
  | n + 1, register => shifts n (p.shift register)

/-- Take one byte in at the high end of the register. -/
def absorb (register : BitVec w) (byte : UInt8) : BitVec w :=
  let bits := if p.reflectsInput then byte.toBitVec.reverse else byte.toBitVec
  p.shifts 8 (register ^^^ bits.setWidth w <<< (w - 8))

/-- The check value of `bytes`. -/
def compute (bytes : Bytes) : BitVec w :=
  let register := bytes.foldl p.absorb p.start
  (if p.reflectsOutput then register.reverse else register) ^^^ p.complement

/-- The check whose register is shifted the other way. -/
def reflected : Crc w := ⟨p.poly.reverse, p.start.reverse⟩

/-! ## Registers read backwards -/

theorem reverse_xor (a b : BitVec w) : (a ^^^ b).reverse = a.reverse ^^^ b.reverse := by
  apply BitVec.eq_of_getLsbD_eq
  intro i hi
  simp [BitVec.getLsbD_reverse]

/-- Read backwards, a shift to the left is one to the right. -/
theorem reverse_shiftLeft_one (a : BitVec w) : (a <<< 1).reverse = a.reverse >>> 1 := by
  apply BitVec.eq_of_getLsbD_eq
  intro i hi
  simp [BitVec.getLsbD_reverse]
  grind

/-- One step of the check, read backwards, is a step of the reflected check: the bit that is shifted
out is the lowest instead of the highest one. -/
theorem reverse_shift (register : BitVec w) :
    (p.shift register).reverse = p.reflected.shift register.reverse := by
  have hlow : register.reverse.getLsbD 0 = register.msb := BitVec.getLsbD_reverse
  rw [shift, Crc.shift, hlow]
  split
  · rw [reverse_xor, reverse_shiftLeft_one]
    rfl
  · rw [reverse_shiftLeft_one]

theorem reverse_shifts (n : Nat) (register : BitVec w) :
    (p.shifts n register).reverse = p.reflected.shifts n register.reverse := by
  induction n generalizing register with
  | zero => rfl
  | succ n ih => rw [shifts, ih, reverse_shift, Crc.shifts]

/-- A byte that is taken in backwards at the high end is, read backwards, the byte at the low
end. -/
theorem reverse_byte (hw : 8 ≤ w) (byte : UInt8) :
    (byte.toBitVec.reverse.setWidth w <<< (w - 8)).reverse = byte.toBitVec.setWidth w := by
  apply BitVec.eq_of_getLsbD_eq
  intro i hi
  simp [BitVec.getLsbD_reverse, BitVec.getMsbD]
  grind

variable {p}

/-- A byte is taken in at the other end of the register, with its own bits read backwards. -/
theorem reverse_absorb (hw : 8 ≤ w) (hin : p.reflectsInput = true) (register : BitVec w)
    (byte : UInt8) :
    (p.absorb register byte).reverse = p.reflected.absorb register.reverse byte := by
  rw [absorb, hin, if_pos rfl, reverse_shifts, reverse_xor, reverse_byte hw, Crc.absorb]

/-- **With reflected input and output** and without a final complement, a check is computed by a
register that is shifted towards its lowest bit. Byte by byte the two registers are each other read
backwards. -/
theorem compute_eq_reflected (hw : 8 ≤ w) (hin : p.reflectsInput = true)
    (hout : p.reflectsOutput = true) (hnone : p.complement = 0#w) (bytes : Bytes) :
    p.compute bytes = p.reflected.compute bytes := by
  have hrun : ∀ register, (bytes.foldl p.absorb register).reverse =
      p.reflected.run register.reverse bytes := by
    induction bytes with
    | nil => exact fun _ => rfl
    | cons b bytes ih =>
      intro register
      rw [List.foldl_cons, ih, reverse_absorb hw hin]
      rfl
  rw [compute, hout, if_pos rfl, hnone, BitVec.xor_zero, hrun]
  rfl

end CrcParameters

namespace Checksum

/-- The parameters of the 8-bit check of a header. -/
def headerParameters : CrcParameters 8 := ⟨0x31, 0xff, true, true, 0⟩

/-- The parameters of the 16-bit check of a packet. -/
def packetParameters : CrcParameters 16 := ⟨0x1021, 0xffff, true, true, 0⟩

/-- The checksum of a header is the check of its parameters. -/
theorem checksum8_eq_parameters (bytes : Bytes) :
    checksum8 bytes = ⟨headerParameters.compute bytes⟩ := by
  rw [CrcParameters.compute_eq_reflected (by decide) rfl rfl rfl]
  rfl

/-- The checksum of a packet is the check of its parameters. -/
theorem checksum16_eq_parameters (bytes : Bytes) :
    checksum16 bytes = ⟨packetParameters.compute bytes⟩ := by
  rw [CrcParameters.compute_eq_reflected (by decide) rfl rfl rfl]
  rfl

/-- The check values that are stated with the parameters. -/
example : headerParameters.compute [0x31, 0x32, 0x33, 0x34, 0x35, 0x36, 0x37, 0x38, 0x39] = 0x0b ∧
    packetParameters.compute [0x31, 0x32, 0x33, 0x34, 0x35, 0x36, 0x37, 0x38, 0x39] = 0x6f91 := by
  decide +kernel

/-! ## The one checksum -/

theorem checksum8_eq_zero_iff (bytes : Bytes) :
    checksum8 bytes = 0 ↔ header.compute bytes = 0#8 :=
  ⟨congrArg UInt8.toBitVec, UInt8.toBitVec_inj.1⟩

theorem checksum16_eq_zero_iff (bytes : Bytes) :
    checksum16 bytes = 0 ↔ packet.compute bytes = 0#16 :=
  ⟨congrArg UInt16.toBitVec, UInt16.toBitVec_inj.1⟩

/-- One byte verifies behind some bytes just if it is their checksum. -/
theorem verify8_append_iff (bytes : Bytes) (b : UInt8) :
    verify8 (bytes ++ [b]) = true ↔ b = checksum8 bytes := by
  rw [verify8_iff, compute_append_byte, and_iff_right (by simp), eq_comm]

/-- Two bytes verify behind some bytes just if they are their checksum, low byte first. -/
theorem verify16_append_iff (bytes : Bytes) (lo hi : UInt8) :
    verify16 (bytes ++ [lo, hi]) = true ↔ [lo, hi] = Bytes.le16 (checksum16 bytes) := by
  rw [verify16_iff, compute_append_word, and_iff_right (by simp)]
  constructor
  · intro hsum
    rw [hsum, Bytes.le16_join16]
  · intro hpair
    rw [← Bytes.ofLE16_le16 (checksum16 bytes), ← hpair, Bytes.ofLE16]

/-- **Verification is a zero residue.**  Both checks are those of their parameters.  Bytes carry
their own checksum exactly when there are enough of them and their checksum is zero.  Appending a
checksum leaves the bytes as they are with one byte, or two, behind them; what comes of it verifies,
and no other byte, or pair of bytes, behind the same bytes does. -/
theorem verify_iff_zero_residue (bytes : Bytes) :
    (checksum8 bytes).toBitVec = headerParameters.compute bytes ∧
    (checksum16 bytes).toBitVec = packetParameters.compute bytes ∧
    (verify8 bytes = true ↔ bytes ≠ [] ∧ checksum8 bytes = 0) ∧
    (verify16 bytes = true ↔ 2 ≤ bytes.length ∧ checksum16 bytes = 0) ∧
    (∃ b, append8 bytes = bytes ++ [b]) ∧ (∃ lo hi, append16 bytes = bytes ++ [lo, hi]) ∧
    verify8 (append8 bytes) = true ∧ verify16 (append16 bytes) = true ∧
    (∃! b, verify8 (bytes ++ [b]) = true) ∧
    ∃! pair : UInt8 × UInt8, verify16 (bytes ++ [pair.1, pair.2]) = true := by
  have happend : verify16 (append16 bytes) = true := (verify16_append_iff bytes _ _).2 rfl
  refine ⟨congrArg UInt8.toBitVec (checksum8_eq_parameters bytes),
    congrArg UInt16.toBitVec (checksum16_eq_parameters bytes), ?_, ?_, ⟨_, rfl⟩, ⟨_, _, rfl⟩,
    (verify8_append_iff bytes _).2 rfl, happend,
    ⟨_, (verify8_append_iff bytes _).2 rfl, fun b => (verify8_append_iff bytes b).1⟩,
    ⟨((checksum16 bytes).toUInt8, (checksum16 bytes >>> 8).toUInt8), happend, fun pair hpair => ?_⟩⟩
  · rw [verify8_iff, checksum8_eq_zero_iff]
  · rw [verify16_iff, checksum16_eq_zero_iff]
  · have hbytes := (verify16_append_iff bytes _ _).1 hpair
    rw [Bytes.le16, List.cons.injEq, List.cons.injEq] at hbytes
    exact Prod.ext hbytes.1 hbytes.2.1

end Checksum

end ControllerLink
