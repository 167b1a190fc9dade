/-
# Words and buffers as byte strings

A word and its bytes determine each other, and a buffer written piece by piece
from left to right holds the pieces one behind the other.

Words are taken apart and put together in both directions, with and without
bytes behind them, since a packet is read from the front of a longer byte
string.  A buffer is written at a place that moves on with what has been read;
these lemmas turn that into plain concatenation, so that later modules never
speak of places.
-/
import ControllerLink.Bytes
import Mathlib.Data.List.Basic

set_option autoImplicit false

namespace ControllerLink

namespace Bytes

/-! ## Words -/

/-- The value of a word is that of its low byte plus 256 times that of its high byte. The halves
overlap in no bit, so their union is their sum. -/
theorem toNat_join16 (lo hi : UInt8) : (join16 lo hi).toNat = lo.toNat + 256 * hi.toNat := by
  have hlo : lo.toNat < 2 ^ 8 := lo.toNat_lt
  have hhi : hi.toNat < 2 ^ 8 := hi.toNat_lt
  have hshift : (hi.toUInt16 <<< 8).toNat = hi.toNat <<< 8 := by
    rw [UInt16.toNat_shiftLeft, UInt8.toNat_toUInt16, Nat.shiftLeft_eq]
    simp
    omega
  rw [join16, UInt16.toNat_or, UInt8.toNat_toUInt16, hshift, Nat.or_comm,
    ← Nat.shiftLeft_add_eq_or_of_lt hlo, Nat.shiftLeft_eq]
  omega

/-- Splitting a word gives the bytes that it was joined from. -/
theorem le16_join16 (lo hi : UInt8) : le16 (join16 lo hi) = [lo, hi] := by
  have hlo : lo.toNat < 256 := lo.toNat_lt
  have hhi : hi.toNat < 256 := hi.toNat_lt
  have hfst : (join16 lo hi).toUInt8 = lo := by
    rw [← UInt8.toNat_inj, UInt16.toNat_toUInt8, toNat_join16]
    omega
  have hsnd : (join16 lo hi >>> 8).toUInt8 = hi := by
    rw [← UInt8.toNat_inj, UInt16.toNat_toUInt8, UInt16.toNat_shiftRight, toNat_join16,
      Nat.shiftRight_eq_div_pow]
    simp
    omega
  rw [le16, hfst, hsnd]

/-- Joining the two bytes of a word gives the word. -/
theorem join16_le16 (n : UInt16) : join16 n.toUInt8 (n >>> 8).toUInt8 = n := by
  have hn := n.toNat_lt
  rw [← UInt16.toNat_inj, toNat_join16, UInt16.toNat_toUInt8, UInt16.toNat_toUInt8,
    UInt16.toNat_shiftRight, Nat.shiftRight_eq_div_pow]
  simp
  omega

/-- A word is read back from its own bytes. -/
theorem ofLE16_le16 (n : UInt16) : ofLE16 (le16 n) = n := by
  rw [le16, ofLE16, join16_le16]

/-- Two bytes are those of the word read from them. -/
theorem le16_ofLE16 (bytes : Bytes) (h : bytes.length = 2) : le16 (ofLE16 bytes) = bytes := by
  obtain ⟨lo, hi, rfl⟩ := List.length_eq_two.1 h
  rw [ofLE16, le16_join16]

/-- A word is read back from its own bytes, whatever stands behind them. -/
theorem ofLE16_le16_append (n : UInt16) (rest : Bytes) : ofLE16 (le16 n ++ rest) = n := by
  simp [le16, ofLE16, join16_le16]

/-- Joining the four bytes of a number gives the number. Each bit lies in just one of the bytes, at
its place counted from where the byte begins. -/
theorem join32_le32 (n : UInt32) :
    join32 n.toUInt8 (n >>> 8).toUInt8 (n >>> 16).toUInt8 (n >>> 24).toUInt8 = n := by
  rw [← UInt32.toBitVec_inj]
  apply BitVec.eq_of_getLsbD_eq
  intro i hi
  simp only [join32, UInt32.toBitVec_or, UInt32.toBitVec_shiftLeft, UInt8.toBitVec_toUInt32,
    UInt32.toBitVec_toUInt8, UInt32.toBitVec_shiftRight, UInt32.toBitVec_ofNat, BitVec.getLsbD_or]
  simp
  grind

/-- A number is read back from its own bytes, whatever stands behind them. -/
theorem ofLE32_le32_append (n : UInt32) (rest : Bytes) : ofLE32 (le32 n ++ rest) = n := by
  simp [le32, ofLE32, join32_le32]

/-- Splitting a number gives the bytes that it was joined from. Behind a shift by whole bytes, only
one of the four has bits in the low eight places. -/
theorem le32_join32 (a b c d : UInt8) : le32 (join32 a b c d) = [a, b, c, d] := by
  simp only [le32, List.cons.injEq, ← UInt8.toBitVec_inj, and_true]
  refine ⟨?_, ?_, ?_, ?_⟩ <;> apply BitVec.eq_of_getLsbD_eq <;> intro i hi <;> simp [join32]
  all_goals grind

/-- Four bytes are those of the number read from them, whatever stands behind them. -/
theorem le32_ofLE32 (a b c d : UInt8) (rest : Bytes) :
    le32 (ofLE32 (a :: b :: c :: d :: rest)) = [a, b, c, d] := by
  rw [ofLE32, le32_join32]

/-! ## Buffers -/

theorem overwrite_nil (buffer : Bytes) (pos : Nat) : buffer.overwrite pos [] = buffer := by
  simp [overwrite]

/-- Writing two pieces in turn is writing them joined. -/
theorem overwrite_append (buffer : Bytes) (pos : Nat) (a b : Bytes) (h : pos ≤ buffer.length) :
    (buffer.overwrite pos a).overwrite (pos + a.length) b = buffer.overwrite pos (a ++ b) := by
  have hfront : (buffer.take pos ++ a).length = pos + a.length := by
    rw [List.length_append, List.length_take, Nat.min_eq_left h]
  rw [overwrite, overwrite, overwrite, List.take_append_of_le_length (Nat.le_of_eq hfront.symm),
    List.take_of_length_le (Nat.le_of_eq hfront), List.drop_append, hfront,
    List.drop_of_length_le (by omega), List.drop_drop, List.nil_append, List.length_append,
    List.append_assoc (buffer.take pos)]
  congr 2
  omega

/-- Writing inside of a buffer does not change its size. -/
theorem length_overwrite (buffer : Bytes) (pos : Nat) (chunk : Bytes)
    (h : pos + chunk.length ≤ buffer.length) :
    (buffer.overwrite pos chunk).length = buffer.length := by
  rw [overwrite, List.length_append, List.length_append, List.length_take, List.length_drop]
  omega

/-- A piece that reaches the end of the buffer leaves nothing of what was there behind `pos`. -/
theorem overwrite_of_length_le (buffer : Bytes) (pos : Nat) (chunk : Bytes)
    (h : buffer.length ≤ pos + chunk.length) :
    buffer.overwrite pos chunk = buffer.take pos ++ chunk := by
  rw [overwrite, List.drop_of_length_le h, List.append_nil]

theorem length_resize (buffer : Bytes) (size : Nat) : (buffer.resize size).length = size := by
  rw [resize, List.length_append, List.length_take, List.length_replicate]
  omega

/-- A buffer that is cut to nothing holds nothing. -/
theorem resize_zero (buffer : Bytes) : buffer.resize 0 = [] := by
  rw [resize, List.take_zero, Nat.zero_sub, List.replicate_zero, List.append_nil]

/-- Growing a buffer keeps what is in it. -/
theorem take_resize (buffer : Bytes) (size n : Nat) (hn : buffer.length = n) (hsize : n ≤ size) :
    (buffer.resize size).take n = buffer := by
  subst hn
  rw [resize, List.take_of_length_le hsize, List.take_left' rfl]

end Bytes

end ControllerLink
