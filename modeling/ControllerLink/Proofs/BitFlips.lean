/-
# Flipped bits

What flipped bits do to the register of a check: every one has its share in it, which depends on
nothing but its distance from the end.  Up to three shares never cancel as long as the powers of the
generator do not repeat, and neither do any number of shares within as many places as the register
has bits.

The argument has three steps:
* a register is linear in the bits that it takes in, so the register of damaged
  bytes differs from that of the sound ones by the sum of the shares of the
  flipped bits (`run_flipAll`), and this sum does not depend on the bytes;
* a sum of one or three shares has odd parity, and a sum of two is zero only if
  the two are the same, which within one period of the generator they are not
  (`syndrome_ne_zero_of_length_le`);
* shares that lie within the width of the register are a single register,
  shifted on, and a shift loses nothing when the generator has a constant term
  (`syndrome_ne_zero_of_window`).
What all this needs of a check is gathered in `Notices`; both checks of the
packet format have it.
-/
import ControllerLink.Proofs.RegisterPeriod
import ControllerLink.Proofs.Residue
import Mathlib.Data.List.Nodup

set_option autoImplicit false

namespace ControllerLink

namespace Bytes

/-- `bytes` with one bit flipped.  Bits are numbered byte by byte, and from the least to the most
significant one within a byte. -/
def flipBit (i : Nat) (bytes : Bytes) : Bytes :=
  bytes.modify (i / 8) (· ^^^ 1 <<< UInt8.ofNat (i % 8))

/-- `bytes` with all bits of a list flipped. -/
def flipAll (flips : List Nat) (bytes : Bytes) : Bytes :=
  flips.foldr flipBit bytes

@[simp] theorem length_flipBit (i : Nat) (bytes : Bytes) :
    (bytes.flipBit i).length = bytes.length :=
  List.length_modify _ _ _

@[simp] theorem length_flipAll (flips : List Nat) (bytes : Bytes) :
    (bytes.flipAll flips).length = bytes.length := by
  induction flips with
  | nil => rfl
  | cons i flips ih => rw [flipAll, List.foldr_cons, length_flipBit, ← flipAll, ih]

/-- The first bytes are damaged by the bits that are flipped in them, and no others. -/
theorem take_flipAll (flips : List Nat) (bytes : Bytes) (n : Nat) :
    (bytes.flipAll flips).take n =
      Bytes.flipAll (flips.filter (· < 8 * n)) (bytes.take n) := by
  induction flips with
  | nil => rfl
  | cons i flips ih =>
    have htake : (bytes.flipAll (i :: flips)).take n =
        Bytes.flipBit i ((bytes.flipAll flips).take n) := List.take_modify _ _ _ _
    rw [htake, ih, List.filter_cons]
    by_cases hi : i < 8 * n
    · rw [if_pos (decide_eq_true hi)]
      rfl
    · rw [if_neg (by simpa using hi), flipBit, List.modify_eq_self]
      rw [length_flipAll, List.length_take]
      omega

end Bytes

namespace Crc

variable {w : Nat} (c : Crc w)

/-! ## Shares

The bits are counted from the first one that is taken in, so a bit `i` of `n` is shifted `n - i`
times before the end. -/

/-- What all flips of a list do to the register of a check over `n` bits. -/
def syndrome (n : Nat) : List Nat → BitVec w
  | [] => 0#w
  | i :: flips => c.shifts (n - i) 1#w ^^^ syndrome n flips

/-- The bits of a byte that are flipped are shifted out of the register with it. -/
theorem absorb_mask (r : BitVec w) (byte mask : UInt8) :
    c.absorb r (byte ^^^ mask) = c.absorb r byte ^^^ c.shifts 8 (mask.toBitVec.setWidth w) := by
  rw [absorb, absorb, ← shifts_xor, UInt8.toBitVec_xor, BitVec.setWidth_xor, BitVec.xor_assoc]

/-- The mask of a bit, in a wider register, is that bit alone. -/
theorem setWidth_mask (hw : 8 ≤ w) {i : Nat} (hi : i < 8) :
    (1 <<< UInt8.ofNat i : UInt8).toBitVec.setWidth w = BitVec.twoPow w i := by
  have hbyte : ∀ j < 8, (1 <<< UInt8.ofNat j : UInt8).toBitVec = BitVec.twoPow 8 j := by decide
  rw [hbyte i hi]
  apply BitVec.eq_of_getLsbD_eq
  intro j hj
  rw [BitVec.getLsbD_setWidth, BitVec.getLsbD_twoPow, BitVec.getLsbD_twoPow]
  simp [hj, hi, show i < w by omega]

/-- **A flipped bit has its share in the register**: a single bit, shifted on to the end. -/
theorem run_flipBit (hw : 8 ≤ w) (r : BitVec w) (bytes : Bytes) (i : Nat)
    (hi : i < 8 * bytes.length) : c.run r (bytes.flipBit i) =
      c.run r bytes ^^^ c.shifts (8 * bytes.length - i) 1#w := by
  induction bytes generalizing r i with
  | nil => exact absurd hi (by simp)
  | cons b bytes ih =>
    rw [List.length_cons] at hi ⊢
    by_cases hfirst : i < 8
    · -- The bit is in the byte that is taken in now; what it did is shifted on by the others.
      have hflip : Bytes.flipBit i (b :: bytes) = (b ^^^ 1 <<< UInt8.ofNat i) :: bytes := by
        rw [Bytes.flipBit, Nat.div_eq_of_lt hfirst, Nat.mod_eq_of_lt hfirst]
        rfl
      have hshare : c.shifts 8 (BitVec.twoPow w i) = c.shifts (8 - i) 1#w := by
        rw [← c.shifts_twoPow i (by omega), ← shifts_add, Nat.add_sub_cancel' (by omega)]
      show c.run r (Bytes.flipBit i (b :: bytes)) = c.run (c.absorb r b) bytes ^^^ _
      rw [hflip]
      show c.run (c.absorb r (b ^^^ 1 <<< UInt8.ofNat i)) bytes = _
      rw [absorb_mask, setWidth_mask hw hfirst, hshare, run_xor, ← shifts_add]
      congr 2
      omega
    -- The byte at the front is sound, and among the bytes behind it the bit comes eight places
    -- earlier.
    · have hflip : Bytes.flipBit i (b :: bytes) = b :: Bytes.flipBit (i - 8) bytes := by
        obtain ⟨j, rfl⟩ : ∃ j, i = j + 8 := ⟨i - 8, by omega⟩
        rw [Bytes.flipBit, Bytes.flipBit, Nat.add_sub_cancel, Nat.add_mod_right,
          Nat.add_div_right _ (by decide)]
        rfl
      rw [hflip]
      show c.run (c.absorb r b) (Bytes.flipBit (i - 8) bytes) = c.run (c.absorb r b) bytes ^^^ _
      rw [ih (c.absorb r b) (i - 8) (by omega)]
      congr 2
      omega

/-- The shares of all flipped bits add up. -/
theorem run_flipAll (hw : 8 ≤ w) (r : BitVec w) (bytes : Bytes) (flips : List Nat)
    (hflips : ∀ i ∈ flips, i < 8 * bytes.length) : c.run r (bytes.flipAll flips) =
      c.run r bytes ^^^ c.syndrome (8 * bytes.length) flips := by
  induction flips with
  | nil => simp [Bytes.flipAll, syndrome]
  | cons i flips ih =>
    obtain ⟨hi, hflips⟩ := List.forall_mem_cons.1 hflips
    show c.run r (Bytes.flipBit i (bytes.flipAll flips)) = _
    rw [c.run_flipBit hw r _ i (by simpa using hi), Bytes.length_flipAll, ih hflips, syndrome,
      BitVec.xor_assoc, BitVec.xor_comm (c.syndrome _ _)]

/-! ## Parity -/

variable {c}

/-- Whether an odd number of the `n` lowest bits is set. -/
def parityBelow (r : BitVec w) : Nat → Bool
  | 0 => false
  | n + 1 => parityBelow r n ^^ r.getLsbD n

/-- Whether an odd number of bits is set. -/
def parity (r : BitVec w) : Bool := parityBelow r w

theorem parityBelow_xor (a b : BitVec w) (n : Nat) :
    parityBelow (a ^^^ b) n = (parityBelow a n ^^ parityBelow b n) := by
  induction n with
  | zero => rfl
  | succ n ih =>
    rw [parityBelow, parityBelow, parityBelow, ih, BitVec.getLsbD_xor]
    simp [Bool.xor_comm, Bool.xor_left_comm]

/-- The parity of a difference is the difference of the parities. -/
theorem parity_xor (a b : BitVec w) : parity (a ^^^ b) = (parity a ^^ parity b) :=
  parityBelow_xor a b w

/-- A shift loses the lowest bit, and the parity of the others stays. -/
theorem parityBelow_ushiftRight (r : BitVec w) (n : Nat) :
    parityBelow (r >>> 1) n = (parityBelow r (n + 1) ^^ r.getLsbD 0) := by
  induction n with
  | zero => simp [parityBelow]
  | succ n ih =>
    rw [parityBelow, ih, BitVec.getLsbD_ushiftRight, Nat.add_comm 1 n, parityBelow.eq_2 r (n + 1)]
    simp [Bool.xor_comm, Bool.xor_left_comm]

/-- A generator with an even number of terms keeps the parity of the register: a set bit that is
shifted out is made up for by the odd number of the other terms. -/
theorem parity_shift (hc : parity c.poly = true) (r : BitVec w) :
    parity (c.shift r) = parity r := by
  have hmoved : parity (r >>> 1) = (parity r ^^ r.getLsbD 0) := by
    rw [parity, parityBelow_ushiftRight, parityBelow, BitVec.getLsbD_of_ge r w (Nat.le_refl w)]
    simp [parity]
  rw [shift]
  split
  · next hlow =>
    rw [parity_xor, hmoved, hc, hlow]
    simp
  · next hlow =>
    rw [hmoved, Bool.eq_false_iff.2 hlow]
    simp

/-- If the generator has odd parity in the register, a shift keeps the parity: the bit that is lost
is made up for by the generator. -/
theorem parity_shifts (hc : parity c.poly = true) (n : Nat) (r : BitVec w) :
    parity (c.shifts n r) = parity r := by
  induction n generalizing r with
  | zero => rfl
  | succ n ih => rw [shifts, ih, parity_shift hc]

theorem parity_one (hw : 0 < w) : parity 1#w = true := by
  have hbelow : ∀ n, parityBelow 1#w (n + 1) = true := by
    intro n
    induction n with
    | zero => simp [parityBelow, hw]
    | succ n ih => rw [parityBelow, ih, BitVec.getLsbD_one]; simp
  obtain ⟨n, rfl⟩ : ∃ n, w = n + 1 := ⟨w - 1, by omega⟩
  exact hbelow n

/-! ## Detection -/

/-- What makes a check notice damage: registers of at least a byte, a generator with a constant term
and an even number of terms, and a known period of its powers. -/
structure Notices (c : Crc w) (period : Nat) : Prop where
  wide : 8 ≤ w
  constant : c.poly.msb = true
  even : parity c.poly = true
  hasPeriod : c.HasPeriod period

variable {period n : Nat} {flips : List Nat}

/-- The parity of the register tells whether an odd number of bits was flipped. -/
theorem parity_syndrome (hc : c.Notices period) :
    parity (c.syndrome n flips) = decide (flips.length % 2 = 1) := by
  induction flips with
  | nil =>
    have hzero : parity (0#w) = false := by
      rw [← BitVec.xor_self (x := 0#w), parity_xor, Bool.xor_self]
    rw [syndrome, hzero]
    rfl
  | cons i flips ih =>
    have hw : 0 < w := Nat.lt_of_lt_of_le (by decide) hc.wide
    rw [syndrome, parity_xor, parity_shifts hc.even, parity_one hw, ih, List.length_cons,
      Bool.true_xor, ← decide_not, decide_eq_decide]
    omega

/-- Two bits have different shares as long as they are less than a period apart. Behind the later
bit both are shifted alike, so that only the places between them count. -/
theorem share_ne (hc : c.Notices period) {i j : Nat} (hij : i < j) (hj : j < n)
    (hn : n ≤ period) : c.shifts (n - i) 1#w ≠ c.shifts (n - j) 1#w := by
  have hw : w - 1 < w := Nat.sub_lt (Nat.lt_of_lt_of_le (by decide) hc.wide) Nat.one_pos
  intro heq
  have hbetween : c.shifts (j - i) 1#w = 1#w := by
    apply shifts_inj hc.constant (n - j)
    rw [← shifts_add, ← heq]
    congr 1
    omega
  have hpower : c.power (j - i) = one w := by
    apply shifts_inj hc.constant (w - 1)
    rw [power, ← shifts_add, Nat.add_comm, shifts_add, one, c.shifts_twoPow (w - 1) hw, hbetween]
  exact hc.hasPeriod.power_ne (by omega) (by omega) hpower

/-- **Up to three flipped bits never cancel** within a period: an odd number of them changes the
parity of the register, and two of them have different shares. -/
theorem syndrome_ne_zero_of_length_le (hc : c.Notices period) (hn : n ≤ period)
    (hdistinct : flips.Nodup) (hsome : flips ≠ []) (hfew : flips.length ≤ 3)
    (hflips : ∀ i ∈ flips, i < n) : c.syndrome n flips ≠ 0#w := by
  intro hzero
  have hparity : parity (c.syndrome n flips) = decide (flips.length % 2 = 1) := parity_syndrome hc
  rw [hzero, ← BitVec.xor_self (x := 0#w), parity_xor, Bool.xor_self, eq_comm,
    decide_eq_false_iff_not] at hparity
  -- The parity is even, so of one, two or three flips there can only be two.
  have hpos : 0 < flips.length := List.length_pos_iff.2 hsome
  obtain ⟨i, j, rfl⟩ := List.length_eq_two.1 (show flips.length = 2 by omega)
  have hij : i ≠ j := by simpa using hdistinct
  have hi : i < n := hflips i (by simp)
  have hj : j < n := hflips j (by simp)
  have hsame : c.shifts (n - i) 1#w = c.shifts (n - j) 1#w := by
    rw [syndrome, syndrome, syndrome, BitVec.xor_zero, BitVec.xor_eq_zero_iff] at hzero
    exact hzero
  rcases Nat.lt_or_gt_of_ne hij with hlt | hgt
  · exact share_ne hc hlt hj hn hsame
  · exact share_ne hc hgt hi hn hsame.symm

/-- The flipped bits from `start` on as the bits of one register. -/
def pattern (w start : Nat) : List Nat → BitVec w
  | [] => 0#w
  | i :: flips => BitVec.twoPow w (i - start) ^^^ pattern w start flips

/-- A bit of the pattern is set exactly if it was flipped. -/
theorem getLsbD_pattern {start j : Nat} (hj : j < w) (hdistinct : flips.Nodup)
    (hstart : ∀ i ∈ flips, start ≤ i) :
    (pattern w start flips).getLsbD j = decide (start + j ∈ flips) := by
  induction flips with
  | nil => simp [pattern]
  | cons i flips ih =>
    obtain ⟨hi, hstart⟩ := List.forall_mem_cons.1 hstart
    obtain ⟨hnew, hdistinct⟩ := List.nodup_cons.1 hdistinct
    rw [pattern, BitVec.getLsbD_xor, ih hdistinct hstart, BitVec.getLsbD_twoPow]
    by_cases hhere : i = start + j
    · subst hhere
      simp [hnew, hj]
    · have hother : i - start ≠ j := by omega
      simp [hother, Ne.symm hhere]

/-- Flipped bits within the places of one register are that register, shifted on to the end. A bit
of the window moves up within the register first and then leaves it with all others. -/
theorem syndrome_eq_shifts {start : Nat}
    (hwindow : ∀ i ∈ flips, start ≤ i ∧ i < start + w ∧ i < n) :
    c.syndrome n flips = c.shifts (n - start) (pattern w start flips) := by
  induction flips with
  | nil => rw [syndrome, pattern, shifts_zero]
  | cons i flips ih =>
    obtain ⟨⟨hstart, hend, hi⟩, hwindow⟩ := List.forall_mem_cons.1 hwindow
    have hshare : c.shifts (n - start) (BitVec.twoPow w (i - start)) = c.shifts (n - i) 1#w := by
      rw [← c.shifts_twoPow (i - start) (by omega), ← shifts_add]
      congr 1
      omega
    rw [syndrome, pattern, shifts_xor, hshare, ih hwindow]

/-- **Flipped bits within the places of one register never cancel.** -/
theorem syndrome_ne_zero_of_window (hc : c.poly.msb = true) {start : Nat}
    (hdistinct : flips.Nodup) (hsome : flips ≠ [])
    (hwindow : ∀ i ∈ flips, start ≤ i ∧ i < start + w ∧ i < n) : c.syndrome n flips ≠ 0#w := by
  intro hzero
  rw [syndrome_eq_shifts hwindow] at hzero
  have hnone : pattern w start flips = 0#w := eq_zero_of_shifts hc _ hzero
  obtain ⟨i, hi⟩ := List.exists_mem_of_ne_nil flips hsome
  obtain ⟨hstart, hend, -⟩ := hwindow i hi
  have hbit := getLsbD_pattern (w := w) (show i - start < w by omega) hdistinct
    fun j hj => (hwindow j hj).1
  rw [hnone, Nat.add_sub_cancel' hstart, decide_eq_true hi] at hbit
  exact absurd hbit (by simp)

end Crc

namespace Checksum

/-- The check of headers notices few flips within 127 bits, as long as its register takes to come
round. -/
theorem notices_header : header.Notices 127 := ⟨by decide, msb_header, by decide, hasPeriod_header⟩

/-- The check of packets notices few flips within 32767 bits, as long as its register takes to come
round. -/
theorem notices_packet : packet.Notices 32767 :=
  ⟨by decide, msb_packet, by decide, hasPeriod_packet⟩

end Checksum

end ControllerLink
