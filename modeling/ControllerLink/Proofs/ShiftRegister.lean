/-
# Shift registers

The register of a check is linear: what two inputs do to it adds up without carries.  With a
generator that has a constant term nothing is forgotten by a shift, and bits are only moved as long
as none of those shifted out is set.

A register of `w` bits is shifted towards its low end, and the generator is
subtracted whenever a bit falls out there. Exclusive or is the addition of
polynomials over the field of two elements, so a shift is linear
(`Crc.shift_xor`), and so is taking in a byte, up to the byte (`Crc.run_xor`). A
shift can be undone as long as the generator sets the highest bit: that bit then
tells whether it was subtracted (`Crc.eq_zero_of_shift`).
-/
import ControllerLink.Checksum
import Mathlib.Logic.Function.Iterate

set_option autoImplicit false

namespace ControllerLink

namespace Crc

variable {w : Nat} (c : Crc w)

/-! ## Linearity -/

theorem shift_zero : c.shift 0#w = 0#w := by
  simp [shift]

/-- A shift is linear in exclusive or. Where both low bits are set, the generator cancels. -/
theorem shift_xor (a b : BitVec w) : c.shift (a ^^^ b) = c.shift a ^^^ c.shift b := by
  apply BitVec.eq_of_getLsbD_eq
  intro i hi
  simp only [shift, BitVec.getLsbD_xor]
  cases a.getLsbD 0 <;> cases b.getLsbD 0 <;>
    simp [Bool.xor_comm, Bool.xor_left_comm]

theorem shifts_zero (n : Nat) : c.shifts n 0#w = 0#w := by
  induction n with
  | zero => rfl
  | succ n ih => rw [shifts, shift_zero, ih]

/-- Shifting is linear: the shifts of a difference are the difference of the shifts. -/
theorem shifts_xor (n : Nat) (a b : BitVec w) :
    c.shifts n (a ^^^ b) = c.shifts n a ^^^ c.shifts n b := by
  induction n generalizing a b with
  | zero => rfl
  | succ n ih => rw [shifts, shift_xor, ih, shifts, shifts]

theorem shifts_add (m n : Nat) (r : BitVec w) :
    c.shifts (m + n) r = c.shifts n (c.shifts m r) := by
  induction m generalizing r with
  | zero => rw [Nat.zero_add, shifts]
  | succ m ih => rw [Nat.succ_add, shifts, ih, shifts]

/-- Shifts are the iterates of one shift. -/
theorem shifts_eq_iterate (n : Nat) (r : BitVec w) : c.shifts n r = c.shift^[n] r := by
  induction n generalizing r with
  | zero => rfl
  | succ n ih => exact ih (c.shift r)

/-- A difference between two registers goes on by itself, and does not depend on the bytes. -/
theorem absorb_xor (r s : BitVec w) (byte : UInt8) :
    c.absorb (r ^^^ s) byte = c.absorb r byte ^^^ c.shifts 8 s := by
  rw [absorb, absorb, ← shifts_xor, BitVec.xor_assoc, BitVec.xor_assoc, BitVec.xor_comm s]

/-- **A difference between two registers** is shifted on by every byte that both take in, whatever
the bytes are. -/
theorem run_xor (r s : BitVec w) (bytes : Bytes) :
    c.run (r ^^^ s) bytes = c.run r bytes ^^^ c.shifts (8 * bytes.length) s := by
  induction bytes generalizing r s with
  | nil => rfl
  | cons b bytes ih =>
    show c.run (c.absorb (r ^^^ s) b) bytes = c.run (c.absorb r b) bytes ^^^ _
    rw [absorb_xor, ih, ← shifts_add, List.length_cons, Nat.mul_succ, Nat.add_comm]

/-! ## Bits that are only moved -/

/-- As long as the bits shifted out are clear, the others only move down. -/
theorem shifts_of_low_clear (n : Nat) (r : BitVec w) (h : ∀ i < n, r.getLsbD i = false) :
    c.shifts n r = r >>> n := by
  induction n generalizing r with
  | zero => simp [shifts]
  | succ n ih =>
    have hshift : c.shift r = r >>> 1 := by
      rw [shift, h 0 (Nat.zero_lt_succ n)]
      rfl
    have hlow : ∀ i < n, (r >>> 1).getLsbD i = false := by
      intro i hi
      rw [BitVec.getLsbD_ushiftRight]
      exact h (1 + i) (by omega)
    rw [shifts, hshift, ih _ hlow, ← BitVec.shiftRight_add, Nat.add_comm]

/-- A single bit reaches the low end unchanged. -/
theorem shifts_twoPow (i : Nat) (hi : i < w) : c.shifts i (BitVec.twoPow w i) = 1#w := by
  rw [shifts_of_low_clear]
  · apply BitVec.eq_of_getLsbD_eq
    intro j hj
    simp only [BitVec.getLsbD_ushiftRight, BitVec.getLsbD_twoPow, BitVec.getLsbD_one, hi]
    simp [Nat.lt_of_le_of_lt (Nat.zero_le i) hi]
  · intro j hj
    rw [BitVec.getLsbD_twoPow]
    simp
    omega

/-! ## Nothing is forgotten -/

variable {c}

/-- With a constant term in the generator only the zero register is shifted to zero: where the
generator is subtracted, it leaves the highest bit set. -/
theorem eq_zero_of_shift (hc : c.poly.msb = true) {r : BitVec w} (h : c.shift r = 0#w) :
    r = 0#w := by
  unfold shift at h
  split at h
  · exfalso
    have hmsb := congrArg BitVec.msb h
    rw [BitVec.msb_xor, hc, BitVec.msb_ushiftRight] at hmsb
    simp at hmsb
  · next hlow =>
    apply BitVec.eq_of_getLsbD_eq
    intro i hi
    rcases i with _ | i
    · simpa using hlow
    · have hbit := congrArg (BitVec.getLsbD · i) h
      simpa [BitVec.getLsbD_ushiftRight, Nat.add_comm] using hbit

/-- If the generator has its highest bit set, a step loses nothing: only zeros are shifted
to zeros. -/
theorem eq_zero_of_shifts (hc : c.poly.msb = true) (n : Nat) {r : BitVec w}
    (h : c.shifts n r = 0#w) : r = 0#w := by
  induction n generalizing r with
  | zero => exact h
  | succ n ih => exact eq_zero_of_shift hc (ih h)

/-- A difference is shifted to zero only if there is none. -/
theorem shifts_xor_eq_zero_iff (hc : c.poly.msb = true) (n : Nat) (a b : BitVec w) :
    c.shifts n (a ^^^ b) = 0#w ↔ a = b := by
  constructor
  · intro h
    exact BitVec.xor_eq_zero_iff.1 (eq_zero_of_shifts hc n h)
  · rintro rfl
    rw [BitVec.xor_self, shifts_zero]

/-- So different registers are shifted to different ones. -/
theorem shifts_inj (hc : c.poly.msb = true) (n : Nat) {a b : BitVec w}
    (h : c.shifts n a = c.shifts n b) : a = b := by
  rw [← shifts_xor_eq_zero_iff hc n, shifts_xor, h, BitVec.xor_self]

end Crc

end ControllerLink
