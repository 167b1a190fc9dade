/-
# Numbers that fit are kept

A number on a command line becomes single precision when it is given to a field.
One of at most 24 significant bits that is neither too large nor too small loses
nothing by this: the field holds just the number that was written.

Rounding scales a quotient so that the highest bit of its significand stands in
the leading place, divides, and rounds the result to the nearest whole number.
For a number that fits, the division comes out even, so nothing is rounded
(`round_exact`).  The pattern that is made of it has a biased exponent and the
fraction without its leading bit, and both are found again when the pattern is
taken apart (`decode_withSign`).
-/
import ControllerLink.Json.Number
import Mathlib.Algebra.Order.Ring.Nat

set_option autoImplicit false

namespace ControllerLink

/-! ## Rounding what is exact

A number is given as `m · 2^a / 2^b`, which takes in whole numbers and those with a fraction of
finitely many bits. -/

/-- A quotient that comes out even is not rounded. -/
theorem roundDiv_mul_self (n : Nat) {d : Nat} (hd : 0 < d) : roundDiv (n * d) d = n := by
  have hwhole : n * d / d = n := Nat.mul_div_cancel n hd
  have hrest : n * d % d = 0 := Nat.mul_mod_left n d
  unfold roundDiv
  dsimp only
  rw [hwhole, hrest, if_neg]
  simp [hd.ne]

namespace BinaryFormat

/-- A multiple of `2^q` is the nearest to itself. The power of two is put into the denominator or
into the numerator, by the sign of `q`. -/
theorem scaleRound_exact {m a b s : Nat} {q : Int} (h : (a : Int) = b + q + s) :
    scaleRound (m * 2 ^ a) (2 ^ b) q = m * 2 ^ s := by
  unfold scaleRound
  simp only [Nat.pow_eq]
  split
  · have ha : a = s + (b + q.toNat) := by omega
    rw [ha, Nat.pow_add 2 s, ← Nat.mul_assoc, Nat.pow_add 2 b]
    exact roundDiv_mul_self _ (Nat.mul_pos (Nat.two_pow_pos b) (Nat.two_pow_pos _))
  · have ha : a + (-q).toNat = s + b := by omega
    rw [Nat.mul_assoc, ← Nat.pow_add, ha, Nat.pow_add, ← Nat.mul_assoc]
    exact roundDiv_mul_self _ (Nat.two_pow_pos b)

/-- Multiplied by a power of two, a number stays between two powers of two, one next to the other. -/
theorem shifted_bounds {m : Nat} (hpos : 0 < m) (a : Nat) :
    2 ^ (m.log2 + a) ≤ m * 2 ^ a ∧ m * 2 ^ a < 2 ^ (m.log2 + a + 1) := by
  constructor
  · calc 2 ^ (m.log2 + a) = 2 ^ m.log2 * 2 ^ a := Nat.pow_add ..
      _ ≤ m * 2 ^ a := Nat.mul_le_mul_right _ (Nat.log2_self_le hpos.ne')
  · calc m * 2 ^ a < 2 ^ (m.log2 + 1) * 2 ^ a :=
          Nat.mul_lt_mul_of_pos_right Nat.lt_log2_self (Nat.two_pow_pos a)
      _ = 2 ^ (m.log2 + a + 1) := by rw [← Nat.pow_add, Nat.add_right_comm]

theorem log2_mul_two_pow {m : Nat} (hpos : 0 < m) (a : Nat) : (m * 2 ^ a).log2 = m.log2 + a :=
  (Nat.log2_eq_iff (Nat.mul_pos hpos (Nat.two_pow_pos a)).ne').2 (shifted_bounds hpos a)

/-- **A number that fits is its own pattern.** Let `m · 2^a / 2^b` have no more bits than the
significand of the format. Its pattern has the bits of `m` with the highest of them in the leading
place, unless the number is too large. Scaled so that its highest bit has the leading place, the
number is whole. -/
theorem round_exact (f : BinaryFormat) {m a b : Nat} (hpos : 0 < m)
    (hm : m.log2 ≤ f.fractionBits)
    (hlow : f.leastExponent ≤ (m.log2 : Int) + a - b - f.fractionBits) :
    f.round (m * 2 ^ a) (2 ^ b) =
      min (((m.log2 : Int) + a - b - f.fractionBits - f.leastExponent).toNat *
        2 ^ f.fractionBits + m * 2 ^ (f.fractionBits - m.log2)) f.infinityBits := by
  have hscale : scaleRound (m * 2 ^ a) (2 ^ b) ((m.log2 : Int) + a - b - f.fractionBits) =
      m * 2 ^ (f.fractionBits - m.log2) := scaleRound_exact (by omega)
  have hlong : ¬ m * 2 ^ (f.fractionBits - m.log2) < 2 ^ f.fractionBits := by
    have hlarge := (shifted_bounds hpos (f.fractionBits - m.log2)).1
    rw [Nat.add_sub_cancel' hm] at hlarge
    exact Nat.not_lt.2 hlarge
  unfold round
  simp only [Nat.pow_eq, log2_mul_two_pow hpos, Nat.log2_two_pow, Int.natCast_add, hscale]
  rw [if_neg hlong, max_eq_left hlow, hscale, if_neg hlong]

/-- A pattern of single precision that is put together is taken apart into the same sign,
significand and exponent. -/
theorem decode_withSign (negative : Bool) {e m : Nat} (he : e ≤ 253) (hlow : 2 ^ 23 ≤ m)
    (hhigh : m < 2 ^ 24) :
    binary32.withSign negative (e * 2 ^ 23 + m) < 2 ^ 32 ∧
      binary32.decode (binary32.withSign negative (e * 2 ^ 23 + m)) =
        .finite negative m ((e : Int) - 149) := by
  -- The leading bit of the significand is not kept: it makes the exponent one more.
  obtain ⟨fraction, rfl⟩ := Nat.exists_eq_add_of_le hlow
  have hpattern : binary32.withSign negative (e * 2 ^ 23 + (2 ^ 23 + fraction)) =
      negative.toNat * 2 ^ 31 + (e + 1) * 2 ^ 23 + fraction := by
    cases negative <;> simp [withSign, signBit, binary32] <;> omega
  have hsign := negative.toNat_le
  have hbit : (negative.toNat == 1) = negative := by
    cases negative <;> rfl
  rw [hpattern]
  refine ⟨by omega, ?_⟩
  -- The three fields do not overlap: the fraction has 23 bits and the exponent eight.
  have hdecode : (negative.toNat * 2 ^ 31 + (e + 1) * 2 ^ 23 + fraction) / 2 ^ 31 % 2 =
      negative.toNat := by omega
  have hexponent : (negative.toNat * 2 ^ 31 + (e + 1) * 2 ^ 23 + fraction) / 2 ^ 23 % 2 ^ 8 =
      e + 1 := by omega
  have hfraction : (negative.toNat * 2 ^ 31 + (e + 1) * 2 ^ 23 + fraction) % 2 ^ 23 = fraction := by
    omega
  unfold decode
  simp only [binary32, signBit, Nat.pow_eq, hdecode, hexponent, hfraction, hbit]
  rw [if_neg (by omega), if_neg (by omega)]
  congr 1
  simp [leastExponent]
  omega

/-- **The nearest number of single precision** to one that fits is that number. -/
theorem decode_round (negative : Bool) {m a b : Nat} (hpos : 0 < m) (hm : m < 2 ^ 24)
    (hlow : -126 ≤ (m.log2 : Int) + a - b) (hhigh : (m.log2 : Int) + a - b ≤ 127) :
    binary32.withSign negative (binary32.round (m * 2 ^ a) (2 ^ b)) < 2 ^ 32 ∧
      binary32.decode (binary32.withSign negative (binary32.round (m * 2 ^ a) (2 ^ b))) =
        .finite negative (m * 2 ^ (23 - m.log2)) ((a : Int) - b - (23 - m.log2 : Nat)) := by
  have hbits : m.log2 ≤ 23 := Nat.lt_succ_iff.1 ((Nat.log2_lt hpos.ne').2 hm)
  have hleast : binary32.leastExponent = -149 := rfl
  have hinfinity : binary32.infinityBits = 255 * 2 ^ 23 := rfl
  obtain ⟨hlarge, hsmall⟩ := shifted_bounds hpos (23 - m.log2)
  rw [Nat.add_sub_cancel' hbits] at hlarge hsmall
  -- The exponent is large enough for a leading bit, and small enough for a finite number.
  have hround := binary32.round_exact (a := a) (b := b) hpos hbits (by
    rw [hleast]
    show _ ≤ _ - ((23 : Nat) : Int)
    omega)
  rw [hleast, hinfinity] at hround
  change _ = min (((m.log2 : Int) + a - b - (23 : Nat) - -149).toNat * 2 ^ 23 +
    m * 2 ^ (23 - m.log2)) _ at hround
  rw [hround, Nat.min_eq_left (by omega)]
  obtain ⟨hword, hdecode⟩ := decode_withSign negative
    (e := ((m.log2 : Int) + a - b - (23 : Nat) - -149).toNat) (by omega) hlarge hsmall
  refine ⟨hword, hdecode.trans ?_⟩
  congr 1
  omega

end BinaryFormat

namespace Json.Number

/-- **A whole number that fits is kept**: the pattern stands for `± |n| · 2^k · 2^(-k)`. Zero has a
pattern of its own, with the least exponent. -/
theorem toSingle_int {n : Int} (h : n.natAbs < 2 ^ 24) :
    ∃ k : Nat, binary32.decode (toSingle (.int n)).bits.toNat =
      .finite (n < 0) (n.natAbs * 2 ^ k) (-k) := by
  rcases eq_or_ne n 0 with rfl | hn
  · exact ⟨149, rfl⟩
  · have hpos : 0 < n.natAbs := Int.natAbs_pos.2 hn
    have hbits : n.natAbs.log2 ≤ 23 := Nat.lt_succ_iff.1 ((Nat.log2_lt hpos.ne').2 h)
    obtain ⟨hword, hdecode⟩ := BinaryFormat.decode_round (decide (n < 0)) (a := 0) (b := 0) hpos h
      (by omega) (by omega)
    rw [Nat.pow_zero, Nat.mul_one] at hword hdecode
    refine ⟨23 - n.natAbs.log2, ?_⟩
    show binary32.decode (Single.ofInt n).bits.toNat = _
    rw [Single.ofInt, BinaryFormat.ofNat, if_neg hpos.ne']
    dsimp only
    rw [UInt32.toNat_ofNat_of_lt' hword, hdecode]
    congr 1
    omega

/-- **A number with a fraction or an exponent that fits is kept**: if the double-precision pattern
stands for `± m · 2^(t + q)`, with few enough bits in `m`, so does the one of single precision. The
value of a pattern is a quotient of two powers of two, one of them one. -/
theorem toSingle_double {bits : UInt64} {negative : Bool} {m t : Nat} {q : Int}
    (hbits : binary64.decode bits.toNat = .finite negative (m * 2 ^ t) q)
    (hpos : 0 < m) (hm : m < 2 ^ 24) (hlow : -126 ≤ m.log2 + t + q) (hhigh : m.log2 + t + q ≤ 127) :
    binary32.decode (toSingle (.double bits)).bits.toNat =
      .finite negative (m * 2 ^ (23 - m.log2)) (t + q - (23 - m.log2 : Nat)) := by
  have hparts : BinaryFormat.quotient (m * 2 ^ t) q =
      (m * 2 ^ (t + q.toNat), 2 ^ (-q).toNat) := by
    simp only [BinaryFormat.quotient, Nat.pow_eq, Nat.pow_add, Nat.mul_assoc]
  obtain ⟨hword, hdecode⟩ := BinaryFormat.decode_round negative
    (a := t + q.toNat) (b := (-q).toNat) hpos hm (by omega) (by omega)
  have hsome : m * 2 ^ t ≠ 0 := (Nat.mul_pos hpos (Nat.two_pow_pos t)).ne'
  show binary32.decode (Single.ofDouble bits).bits.toNat = _
  rw [Single.ofDouble, BinaryFormat.convert, hbits]
  simp only [hparts, if_neg hsome]
  rw [UInt32.toNat_ofNat_of_lt' hword, hdecode]
  congr 1
  omega

end Json.Number

end ControllerLink
