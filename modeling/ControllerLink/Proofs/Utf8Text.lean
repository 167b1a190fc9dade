/-
# ASCII characters in UTF-8

An ASCII character is written as the byte of its number, and all other bytes of
a text belong to other characters.  The other way round, such a byte is always
read as its character, however damaged the text is around it.

Bytes below 128 stand for themselves and nothing else, in both directions. For
writing this is seen from the ranges of the four forms of a character
(`le_toNat_of_mem_encodeChar`). For reading the decoder may be in the middle of
a character: `Partial.Sound` says that no way of going on comes to an ASCII
character, and a byte below 128 is none that could be the next one, so that it
ends the begun character and is read by itself (`decodeFrom_of_not_allows`).
-/
import ControllerLink.Text.Utf8
import Mathlib.Algebra.GroupWithZero.Nat

set_option autoImplicit false

namespace ControllerLink.Text.Utf8

/-! ## ASCII characters -/

section

variable {c d : Char} (hc : c.toNat < 0x80)
include hc

/-- Two characters of one byte have the same byte only if they are the same. -/
theorem ofNat_toNat_eq_iff (hd : d.toNat < 0x80) :
    UInt8.ofNat d.toNat = UInt8.ofNat c.toNat ↔ d = c := by
  refine ⟨fun h => ?_, fun h => by rw [h]⟩
  have hnat := congrArg UInt8.toNat h
  rw [UInt8.toNat_ofNat', UInt8.toNat_ofNat'] at hnat
  rw [← Char.ofNat_toNat d, ← Char.ofNat_toNat c]
  congr 1
  omega

theorem ofNat_toNat_ne {b : UInt8} (hb : 0x80 ≤ b.toNat) : b ≠ UInt8.ofNat c.toNat := by
  rintro rfl
  rw [UInt8.toNat_ofNat'] at hb
  omega

theorem ne_of_le_toNat (hd : 0x80 ≤ d.toNat) : d ≠ c := by
  rintro rfl
  omega

end

/-! ## Writing -/

theorem le_toNat_trailing (bits : Nat) : 0x80 ≤ (trailing bits).toNat := by
  rw [trailing, UInt8.toNat_ofNat']
  omega

theorem le_toNat_ofNat {n : Nat} (hlow : 0x80 ≤ n) (hhigh : n < 0x100) :
    0x80 ≤ (UInt8.ofNat n).toNat := by
  rw [UInt8.toNat_ofNat']
  omega

/-- A character below 128 is one byte. -/
theorem encodeChar_of_ascii {c : Char} (hc : c.toNat < 0x80) :
    encodeChar c = [UInt8.ofNat c.toNat] :=
  if_pos hc

/-- No byte of a longer character is an ASCII byte. Two, three or four bytes: the first is in its
own range, the others are trailing ones. -/
theorem le_toNat_of_mem_encodeChar {c : Char} (hc : 0x80 ≤ c.toNat) :
    ∀ b ∈ encodeChar c, 0x80 ≤ b.toNat := by
  have hvalid : c.toNat < 0x110000 := by
    have h := c.valid
    simp only [UInt32.isValidChar, Nat.isValidChar] at h
    show c.val.toNat < 0x110000
    omega
  have htrailing := le_toNat_trailing
  unfold encodeChar
  dsimp only
  rw [if_neg (Nat.not_lt.2 hc)]
  split
  · refine List.forall_mem_cons.2 ⟨le_toNat_ofNat (by omega) (by omega), ?_⟩
    simp [htrailing]
  · split
    · refine List.forall_mem_cons.2 ⟨le_toNat_ofNat (by omega) (by omega), ?_⟩
      simp [htrailing]
    · refine List.forall_mem_cons.2 ⟨le_toNat_ofNat (by omega) (by omega), ?_⟩
      simp [htrailing]

/-- An ASCII byte is written for the character with its number only. -/
theorem toNat_eq_of_mem_encodeChar {c : Char} {b : UInt8} (hb : b ∈ encodeChar c)
    (hascii : b.toNat < 0x80) : c.toNat = b.toNat := by
  rcases Nat.lt_or_ge c.toNat 0x80 with hc | hc
  · rw [encodeChar_of_ascii hc, List.mem_singleton] at hb
    rw [hb, UInt8.toNat_ofNat']
    omega
  · exact absurd (le_toNat_of_mem_encodeChar hc b hb) (Nat.not_le.2 hascii)

/-- **An ASCII character is written as often as it is there.** Another character is either one byte,
and then another one, or has no such byte. -/
theorem count_encode {c : Char} (hc : c.toNat < 0x80) (cs : List Char) :
    (encode cs).count (UInt8.ofNat c.toNat) = cs.count c := by
  induction cs with
  | nil => rfl
  | cons d cs ih =>
    rw [encode, List.flatMap_cons, List.count_append, ← encode, ih]
    rcases Nat.lt_or_ge d.toNat 0x80 with hd | hd
    · rw [encodeChar_of_ascii hd, List.count_singleton, List.count_cons, Nat.add_comm]
      simp only [beq_iff_eq, ofNat_toNat_eq_iff hc hd]
    · have habsent : UInt8.ofNat c.toNat ∉ encodeChar d := fun hmem =>
        ofNat_toNat_ne hc (le_toNat_of_mem_encodeChar hd _ hmem) rfl
      rw [List.count_eq_zero_of_not_mem habsent, Nat.zero_add,
        List.count_cons_of_ne (ne_of_le_toNat hc hd)]

/-! ## Reading -/

/-- The numbers that a begun character may still come to. -/
structure Partial.Sound (p : Partial) : Prop where
  low : 0x80 ≤ p.low
  high : p.high < 0xc0
  /-- It comes to no ASCII character. -/
  least : 0x80 ≤ (p.bits * 64 + p.low % 64) * 64 ^ p.rest
  /-- It comes to a character, and not to a surrogate. -/
  range : (p.bits * 64 + p.high % 64 + 1) * 64 ^ p.rest ≤ 0xd800 ∨
    0xe000 ≤ (p.bits * 64 + p.low % 64) * 64 ^ p.rest ∧
      (p.bits * 64 + p.high % 64 + 1) * 64 ^ p.rest ≤ 0x110000

/-- What a byte can mean where a character may begin. There is one case for each row of the table of
lead bytes. -/
theorem lead_cases (b : UInt8) :
    (b.toNat < 0x80 ∧ lead b = .char (Char.ofNat b.toNat)) ∨
      0x80 ≤ b.toNat ∧ (lead b = .stray ∨ ∃ p, lead b = .more p ∧ p.Sound) := by
  have hb := b.toNat_lt
  unfold lead
  dsimp only
  by_cases hascii : b.toNat < 0x80
  · rw [if_pos hascii]
    exact .inl ⟨hascii, rfl⟩
  · rw [if_neg hascii]
    refine .inr ⟨Nat.le_of_not_lt hascii, ?_⟩
    repeat' split
    all_goals first
      | exact .inl rfl
      | exact .inr ⟨_, rfl, by constructor <;> dsimp only <;> omega⟩

/-- What a byte that is allowed means in the middle of a character. -/
theorem Partial.Sound.next_cases {p : Partial} (hp : p.Sound) {b : UInt8} (hb : p.allows b = true) :
    0x80 ≤ b.toNat ∧
      ((∃ c, p.next b = .char c ∧ 0x80 ≤ c.toNat) ∨ ∃ q, p.next b = .more q ∧ q.Sound) := by
  obtain ⟨hlow, hhigh, hleast, hrange⟩ := hp
  rw [allows, Bool.and_eq_true, decide_eq_true_eq, decide_eq_true_eq] at hb
  refine ⟨Nat.le_trans hlow hb.1, ?_⟩
  unfold next
  rcases p with ⟨low, high, rest, bits⟩
  dsimp only at *
  -- The last byte makes the number, and any other one narrows down what it can be.
  cases rest with
  | zero =>
    have hvalid : (bits * 64 + b.toNat % 64).isValidChar := by
      unfold Nat.isValidChar
      omega
    have hnumber : (Char.ofNat (bits * 64 + b.toNat % 64)).toNat = bits * 64 + b.toNat % 64 := by
      rw [Char.ofNat, dif_pos hvalid]
      rfl
    exact .inl ⟨_, rfl, by omega⟩
  | succ rest =>
    -- The numbers that are left are among those that there were before.
    have hfrom : (bits * 64 + low % 64) * 64 ^ (rest + 1) ≤
        ((bits * 64 + b.toNat % 64) * 64 + 0x80 % 64) * 64 ^ rest := by
      rw [Nat.pow_succ', ← Nat.mul_assoc]
      exact Nat.mul_le_mul_right _ (by omega)
    have hto : ((bits * 64 + b.toNat % 64) * 64 + 0xbf % 64 + 1) * 64 ^ rest ≤
        (bits * 64 + high % 64 + 1) * 64 ^ (rest + 1) := by
      rw [Nat.pow_succ', ← Nat.mul_assoc]
      exact Nat.mul_le_mul_right _ (by omega)
    exact .inr ⟨_, rfl, by constructor <;> dsimp only <;> omega⟩

/-- A character that is cut off is replaced, and what follows is read as if it had not begun. -/
theorem decodeFrom_of_not_allows {p : Partial} {b : UInt8} (hb : ¬ p.allows b = true)
    (bs : Bytes) : decodeFrom (some p) (b :: bs) = replacement :: decodeFrom none (b :: bs) := by
  unfold decodeFrom
  rw [if_neg hb]
  cases lead b <;> rfl

/-- Reading bytes gives a character of one byte as often as its byte is there: no longer character
has such a byte in it, and the mark of what cannot be read is a different character. -/
theorem count_decodeFrom {c : Char} (hc : c.toNat < 0x80) (begun : Option Partial)
    (hbegun : ∀ p ∈ begun, p.Sound) (bytes : Bytes) :
    (decodeFrom begun bytes).count c = bytes.count (UInt8.ofNat c.toNat) := by
  have hreplacement : replacement ≠ c := ne_of_le_toNat hc (by decide)
  induction bytes generalizing begun with
  | nil => cases begun <;> simp [decodeFrom, hreplacement]
  | cons b bs ih =>
    -- Where a character may begin the byte says which one it is, or how it begins.
    have hstart : (decodeFrom none (b :: bs)).count c = (b :: bs).count (UInt8.ofNat c.toNat) := by
      rw [decodeFrom]
      rcases lead_cases b with ⟨hb, hlead⟩ | ⟨hb, hlead | ⟨p, hlead, hp⟩⟩
      · have hnumber : (Char.ofNat b.toNat).toNat = b.toNat := by
          rw [Char.ofNat, dif_pos (.inl (by omega))]
          rfl
        have hsame := ofNat_toNat_eq_iff hc (hnumber ▸ hb)
        rw [hnumber, UInt8.ofNat_toNat] at hsame
        rw [hlead, List.count_cons, List.count_cons, ih none (by simp)]
        simp only [beq_iff_eq, hsame]
      · rw [hlead, List.count_cons_of_ne hreplacement, ih none (by simp),
          List.count_cons_of_ne (ofNat_toNat_ne hc hb)]
      · rw [hlead, ih (some p) (by simpa using hp), List.count_cons_of_ne (ofNat_toNat_ne hc hb)]
    cases begun with
    | none => exact hstart
    | some p =>
      -- In the middle of one it goes on, or is replaced and the byte is read as a first one.
      by_cases hallowed : p.allows b = true
      · rw [decodeFrom, if_pos hallowed]
        obtain ⟨hb, ⟨d, hnext, hd⟩ | ⟨q, hnext, hq⟩⟩ := (hbegun p rfl).next_cases hallowed
        · rw [hnext, List.count_cons_of_ne (ne_of_le_toNat hc hd), ih none (by simp),
            List.count_cons_of_ne (ofNat_toNat_ne hc hb)]
        · rw [hnext, ih (some q) (by simpa using hq), List.count_cons_of_ne (ofNat_toNat_ne hc hb)]
      · rw [decodeFrom_of_not_allows hallowed, List.count_cons_of_ne hreplacement, hstart]

/-- **An ASCII character is read as often as its byte is there**, whatever the other bytes are. -/
theorem count_decodeLossy {c : Char} (hc : c.toNat < 0x80) (bytes : Bytes) :
    (decodeLossy bytes).count c = bytes.count (UInt8.ofNat c.toNat) :=
  count_decodeFrom hc none (by simp) bytes

end ControllerLink.Text.Utf8
