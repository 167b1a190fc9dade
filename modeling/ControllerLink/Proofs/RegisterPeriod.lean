/-
# The period of a register

A register is a polynomial over the field of two elements, its lowest power in the highest bit,
and a shift multiplies it by `x` and reduces it by the generator.  Multiplying two powers of `x` as
polynomials adds their exponents, so that a register far ahead is found by squaring, and the period
of the powers by trying its prime factors.

The period matters because two flipped bits cancel exactly when their distance
is a multiple of it. It is computed in three steps:
* `Crc.times` multiplies two registers as polynomials, and `Crc.times_power`
  says that powers multiply as they should;
* `Crc.squared` computes a power by squaring, so that a register 32767 shifts
  ahead takes fifteen products (`Crc.squared_eq`);
* a number is the period if the power there is 1 and none at its quotients by
  prime factors is (`Crc.hasPeriod_of_primes`).
The two periods at the end are one of seven binary digits, and one of fifteen.
-/
import ControllerLink.Proofs.ShiftRegister
import Mathlib.Data.Nat.Prime.Basic
import Mathlib.Dynamics.PeriodicPts.Defs
import Mathlib.Tactic.NormNum.Prime

set_option autoImplicit false

namespace ControllerLink

namespace Crc

variable {w : Nat} (c : Crc w)

/-- The polynomial 1. -/
def one (w : Nat) : BitVec w := BitVec.twoPow w (w - 1)

/-- The power `x ^ n`. -/
def power (n : Nat) : BitVec w := c.shifts n (one w)

/-! ## Products -/

/-- The product of the `n` highest powers in `u` with `v`, but for the powers of `x` below them. -/
def scale (u v : BitVec w) : Nat → BitVec w
  | 0 => 0#w
  | n + 1 => c.shift (scale u v n) ^^^ if u.getLsbD n then v else 0#w

/-- The product of two polynomials. -/
def times (u v : BitVec w) : BitVec w := c.scale u v w

/-- A multiple of a shifted register is the shifted multiple. Shifts commute with sums, and each
term is shifted by itself. -/
theorem scale_shift (u v : BitVec w) (n : Nat) :
    c.scale u (c.shift v) n = c.shift (c.scale u v n) := by
  induction n with
  | zero => rw [scale, scale, shift_zero]
  | succ n ih =>
    rw [scale, scale, shift_xor, ih]
    split
    · rfl
    · rw [shift_zero]

/-- Scaling the polynomial 1 brings the powers of `u` back in their order. -/
theorem scale_one (u : BitVec w) (n : Nat) (hn : n ≤ w) :
    c.scale u (one w) n = u <<< (w - n) := by
  induction n with
  | zero =>
    apply BitVec.eq_of_getLsbD_eq
    intro i hi
    simp [scale, hi]
  | succ n ih =>
    obtain ⟨k, hk⟩ : ∃ k, w - n = k + 1 := ⟨w - n - 1, by omega⟩
    have hk' : w - (n + 1) = k := by omega
    -- What has been scaled so far begins above the lowest bit, so that a shift only moves it.
    have hmoved : c.shift (u <<< (k + 1)) = u <<< (k + 1) >>> 1 := by
      apply c.shifts_of_low_clear 1
      intro i hi
      rw [BitVec.getLsbD_shiftLeft, decide_eq_true (show i < k + 1 by omega)]
      simp
    have hterm : ∀ i < w, (if u.getLsbD n = true then one w else 0#w).getLsbD i =
        (u.getLsbD n && decide (w - 1 = i)) := by
      intro i hi
      cases u.getLsbD n <;> simp [one, BitVec.getLsbD_twoPow]
      omega
    rw [scale, ih (by omega), hk, hmoved, hk']
    apply BitVec.eq_of_getLsbD_eq
    intro i hi
    rw [BitVec.getLsbD_xor, hterm i hi, BitVec.getLsbD_ushiftRight, BitVec.getLsbD_shiftLeft,
      BitVec.getLsbD_shiftLeft, Nat.add_comm 1 i, Nat.add_sub_add_right]
    by_cases htop : w - 1 = i
    · have hindex : i - k = n := by omega
      simp [htop, hindex, show ¬ i + 1 < w by omega, show ¬ i < k by omega, hi]
    · simp [htop, hi, show i + 1 < w by omega]

theorem times_one (u : BitVec w) : c.times u (one w) = u := by
  rw [times, c.scale_one u w (Nat.le_refl w), Nat.sub_self]
  simp

/-- A product with a shifted factor is the shifted product. -/
theorem times_shifts (u v : BitVec w) (n : Nat) :
    c.times u (c.shifts n v) = c.shifts n (c.times u v) := by
  induction n generalizing v with
  | zero => rfl
  | succ n ih => rw [shifts, ih, shifts, times, times, scale_shift]

/-- **The product of two powers** adds their exponents. The second power is so many shifts of 1, and
multiplying by 1 changes nothing. -/
theorem times_power (m n : Nat) : c.times (c.power m) (c.power n) = c.power (m + n) := by
  show c.times (c.power m) (c.shifts n (one w)) = c.power (m + n)
  rw [times_shifts, times_one, power, power, shifts_add]

/-- A power by squaring, for exponents of at most so many binary digits. -/
def squared : Nat → Nat → BitVec w
  | 0, _ => one w
  | digits + 1, n =>
    let half := squared digits (n / 2)
    if n % 2 = 1 then c.shift (c.times half half) else c.times half half

/-- Squaring again and again comes to the same power as shifting one by one; this is what makes the
period computable. The half is squared, and shifted once more if a digit was left over. -/
theorem squared_eq (digits n : Nat) (hn : n < 2 ^ digits) : c.squared digits n = c.power n := by
  induction digits generalizing n with
  | zero =>
    obtain rfl : n = 0 := by omega
    rfl
  | succ digits ih =>
    rw [squared, ih (n / 2) (by omega), times_power]
    split
    · show c.shifts 1 (c.shifts (n / 2 + n / 2) (one w)) = c.power n
      rw [← shifts_add, power]
      congr 1
      omega
    · congr 1
      omega

/-! ## Periods -/

/-- `c.HasPeriod n`: the powers of `x` come back to 1 at the exponent `n` and not before. -/
def HasPeriod (n : Nat) : Prop := Function.minimalPeriod c.shift (one w) = n

variable {c}

/-- Before its period the register does not come back to one. -/
theorem HasPeriod.power_ne {n m : Nat} (h : c.HasPeriod n) (hpos : 0 < m) (hlt : m < n) :
    c.power m ≠ one w := by
  intro hm
  have hperiodic : Function.IsPeriodicPt c.shift m (one w) := by
    rw [power, shifts_eq_iterate] at hm
    exact hm
  have hle := hperiodic.minimalPeriod_le hpos
  rw [HasPeriod] at h
  omega

/-- **The period is found from its prime factors**: if the power at `n` is 1 and none of those at
`n / p` is, for primes `p`, then nothing below `n` is a period. -/
theorem hasPeriod_of_primes {n : Nat} (hn : c.power n = one w)
    (hprimes : ∀ p, p.Prime → p ∣ n → c.power (n / p) ≠ one w) : c.HasPeriod n := by
  have hperiodic : ∀ m, c.power m = one w ↔ Function.IsPeriodicPt c.shift m (one w) := by
    intro m
    rw [power, shifts_eq_iterate]
    rfl
  obtain ⟨k, hk⟩ := ((hperiodic n).1 hn).minimalPeriod_dvd
  rw [HasPeriod]
  set period := Function.minimalPeriod c.shift (one w) with hperiod
  by_cases hone : k = 1
  · rw [hk, hone, Nat.mul_one]
  · -- A prime factor of what is left would give a shorter exponent that is a period as well.
    obtain ⟨p, hp, j, rfl⟩ := Nat.exists_prime_and_dvd hone
    have hdiv : n / p = period * j := by
      rw [hk, Nat.mul_left_comm, Nat.mul_div_cancel_left _ hp.pos]
    refine absurd ?_ (hprimes p hp ⟨period * j, by rw [hk, Nat.mul_left_comm]⟩)
    rw [hdiv, hperiodic]
    exact (Function.isPeriodicPt_minimalPeriod c.shift (one w)).mul_const j

end Crc

namespace Checksum

/-- The powers of `x` repeat after 127 for headers, which is a prime number. -/
theorem hasPeriod_header : header.HasPeriod 127 := by
  apply Crc.hasPeriod_of_primes
  · rw [← Crc.squared_eq _ 7 127 (by decide)]
    decide +kernel
  · intro p hp hdvd
    obtain rfl : p = 127 := (Nat.prime_dvd_prime_iff_eq hp (by norm_num)).1 hdvd
    decide +kernel

/-- The powers of `x` repeat after 32767 for packets, which is 7 · 31 · 151. -/
theorem hasPeriod_packet : packet.HasPeriod 32767 := by
  apply Crc.hasPeriod_of_primes
  · rw [← Crc.squared_eq _ 15 32767 (by decide)]
    decide +kernel
  · intro p hp hdvd
    -- The quotients at the three prime factors are tried one by one.
    have hfactor : p = 7 ∨ p = 31 ∨ p = 151 := by
      rw [show 32767 = 7 * (31 * 151) from rfl, hp.dvd_mul, hp.dvd_mul,
        Nat.prime_dvd_prime_iff_eq hp (by norm_num), Nat.prime_dvd_prime_iff_eq hp (by norm_num),
        Nat.prime_dvd_prime_iff_eq hp (by norm_num)] at hdvd
      exact hdvd
    rcases hfactor with rfl | rfl | rfl
    · rw [← Crc.squared_eq _ 15 (32767 / 7) (by decide)]
      decide +kernel
    · rw [← Crc.squared_eq _ 15 (32767 / 31) (by decide)]
      decide +kernel
    · rw [← Crc.squared_eq _ 15 (32767 / 151) (by decide)]
      decide +kernel

end Checksum

end ControllerLink
