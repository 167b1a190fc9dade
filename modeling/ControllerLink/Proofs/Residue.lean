/-
# Residues

Bytes end with their own checksum exactly when taking in all of them, the checksum included, leaves
the register zero.  So whether bytes verify can be told from one register, and what damage does to
it adds up bit by bit: every flipped bit has its share in the register, which depends on nothing but
its distance from the end.

The one byte of the header checksum is taken in like any other, and eight shifts
of the register are zero only if it was. The two bytes of the packet checksum
are taken in one after the other, the low one first; since the low eight bits of
the register see only the first of them, both can be taken in at once, as one
word (`Checksum.compute_append_word`).
-/
import ControllerLink.Proofs.PacketImage
import ControllerLink.Proofs.ShiftRegister

set_option autoImplicit false

namespace ControllerLink

/-! ## Zero residues -/

namespace Checksum

theorem msb_header : header.poly.msb = true := by decide

theorem msb_packet : packet.poly.msb = true := by decide

/-- Taking in the checksum of what has been taken in leaves zero, and no other byte does. The last
byte meets the checksum in the register, and the two cancel if they are equal. -/
theorem compute_append_byte (body : Bytes) (last : UInt8) :
    header.compute (body ++ [last]) = 0#8 ↔ checksum8 body = last := by
  have hlast : header.compute (body ++ [last]) =
      header.shifts 8 (header.compute body ^^^ last.toBitVec) := by
    rw [Crc.compute, Crc.run_append]
    simp [Crc.run, Crc.absorb, Crc.compute]
  have hsum : checksum8 body = last ↔ header.compute body = last.toBitVec :=
    ⟨congrArg UInt8.toBitVec, UInt8.toBitVec_inj.1⟩
  rw [hlast, hsum, Crc.shifts_xor_eq_zero_iff msb_header]

/-- The bits of a word are those of its bytes, which overlap nowhere. -/
theorem toBitVec_join16 (lo hi : UInt8) : (Bytes.join16 lo hi).toBitVec =
    lo.toBitVec.setWidth 16 ^^^ hi.toBitVec.setWidth 16 <<< 8 := by
  apply BitVec.eq_of_getLsbD_eq
  intro i hbound
  simp [Bytes.join16]
  grind

/-- Taking in both bytes of the checksum of what has been taken in, the low one first, leaves zero,
and no other two bytes do. The high byte can as well be taken in together with the low one, eight
places higher up. -/
theorem compute_append_word (body : Bytes) (lo hi : UInt8) :
    packet.compute (body ++ [lo, hi]) = 0#16 ↔ checksum16 body = Bytes.join16 lo hi := by
  have hhigh : packet.shifts 8 (hi.toBitVec.setWidth 16 <<< 8) = hi.toBitVec.setWidth 16 := by
    rw [Crc.shifts_of_low_clear]
    · apply BitVec.eq_of_getLsbD_eq
      intro i hi
      simp
      grind
    · intro i hi
      simp
      grind
  have hword : packet.compute (body ++ [lo, hi]) =
      packet.shifts 16 (packet.compute body ^^^ (Bytes.join16 lo hi).toBitVec) := by
    rw [Crc.compute, Crc.run_append]
    show packet.absorb (packet.absorb (packet.compute body) lo) hi = _
    rw [Crc.absorb, Crc.absorb, toBitVec_join16, ← BitVec.xor_assoc, packet.shifts_add 8 8,
      packet.shifts_xor 8 (_ ^^^ _), hhigh]
  have hsum : checksum16 body = Bytes.join16 lo hi ↔
      packet.compute body = (Bytes.join16 lo hi).toBitVec :=
    ⟨congrArg UInt16.toBitVec, UInt16.toBitVec_inj.1⟩
  rw [hword, hsum, Crc.shifts_xor_eq_zero_iff msb_packet]

/-- **Bytes carry their 8-bit checksum exactly when they leave the register zero.** -/
theorem verify8_iff (bytes : Bytes) :
    verify8 bytes = true ↔ bytes ≠ [] ∧ header.compute bytes = 0#8 := by
  rcases List.eq_nil_or_concat bytes with rfl | ⟨body, last, rfl⟩
  · simp [verify8]
  · rw [List.concat_eq_append, compute_append_byte, verify8, List.getLast?_concat]
    simp

/-- **Bytes carry their 16-bit checksum exactly when they leave the register zero.** -/
theorem verify16_iff (bytes : Bytes) :
    verify16 bytes = true ↔ 2 ≤ bytes.length ∧ packet.compute bytes = 0#16 := by
  by_cases hlen : 2 ≤ bytes.length
  · obtain ⟨lo, hi, htail⟩ := List.length_eq_two.1
      (show (bytes.drop (bytes.length - 2)).length = 2 by rw [List.length_drop]; omega)
    have hbytes : bytes.take (bytes.length - 2) ++ [lo, hi] = bytes := by
      rw [← htail, List.take_append_drop]
    have hsum := compute_append_word (bytes.take (bytes.length - 2)) lo hi
    rw [hbytes] at hsum
    rw [hsum]
    simp [verify16, hlen, htail, Bytes.ofLE16]
  · simp [verify16, hlen]

end Checksum

end ControllerLink
