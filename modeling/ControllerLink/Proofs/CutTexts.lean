/-
# Cut texts

What is written as UTF-8 is read back.  Of a text whose bytes end too early the
characters that are complete are read back, and one replacement character stands
for the one that is cut, whichever of its bytes are missing.

A decoder that has seen the first bytes of a character holds the bits read so
far and the range that the next byte has to lie in.  `Partial.Awaits` says that
what it holds is right for a given number; every further byte of that number
then keeps this, down to the last one, which completes the character.  If the
bytes end before, the decoder is left with a begun character, and that is what
it replaces.
-/
import ControllerLink.Proofs.Utf8Text

set_option autoImplicit false

namespace ControllerLink.Text.Utf8

/-! ## Writing -/

/-- The bytes of a character are those that a string has for it. -/
theorem encodeChar_eq_utf8EncodeChar (c : Char) : encodeChar c = String.utf8EncodeChar c := by
  have hvalid : c.toNat < 0xd800 ∨ 0xdfff < c.toNat ∧ c.toNat < 0x110000 := c.valid
  have hval : c.val.toNat = c.toNat := rfl
  unfold encodeChar String.utf8EncodeChar trailing
  dsimp only
  rw [hval]
  generalize c.toNat = n at *
  -- By the number of bytes that the character takes.
  rcases Nat.lt_or_ge n 0x80 with hone | hone
  · rw [if_pos hone, if_pos (Nat.le_of_lt_succ hone)]
  · rw [if_neg (Nat.not_lt.2 hone), if_neg (show ¬ n ≤ 127 by omega)]
    rcases Nat.lt_or_ge n 0x800 with htwo | htwo
    · rw [if_pos htwo, if_pos (Nat.le_of_lt_succ htwo),
        Nat.mod_eq_of_lt (show n / 64 < 32 by omega), Nat.add_comm 0xc0, Nat.add_comm 0x80]
    · rw [if_neg (Nat.not_lt.2 htwo), if_neg (show ¬ n ≤ 2047 by omega)]
      rcases Nat.lt_or_ge n 0x10000 with hthree | hthree
      · rw [if_pos hthree, if_pos (Nat.le_of_lt_succ hthree),
          Nat.mod_eq_of_lt (show n / 4096 < 16 by omega), Nat.add_comm 0xe0, Nat.add_comm 0x80,
          Nat.add_comm 0x80]
      · rw [if_neg (Nat.not_lt.2 hthree), if_neg (show ¬ n ≤ 65535 by omega),
          Nat.mod_eq_of_lt (show n / 262144 < 8 by omega), Nat.add_comm 0xf0, Nat.add_comm 0x80,
          Nat.add_comm 0x80, Nat.add_comm 0x80]

theorem encode_cons (c : Char) (cs : List Char) : encode (c :: cs) = encodeChar c ++ encode cs :=
  List.flatMap_cons

/-- A text has as many bytes as its string. -/
theorem length_encode_toList (s : String) : (encode s.toList).length = s.utf8ByteSize := by
  have hbytes : s.toByteArray = (encode s.toList).toByteArray := by
    rw [encode, funext encodeChar_eq_utf8EncodeChar, ← List.utf8Encode,
      ← String.toByteArray_ofList, String.ofList_toList]
  rw [String.utf8ByteSize, hbytes, List.size_toByteArray]

theorem length_encodeChar_pos (c : Char) : 0 < (encodeChar c).length := by
  unfold encodeChar
  dsimp only
  repeat' split
  all_goals simp

/-- No character takes more than four bytes. -/
theorem length_encodeChar_le (c : Char) : (encodeChar c).length ≤ 4 := by
  unfold encodeChar
  dsimp only
  repeat' split
  all_goals simp

/-! ## Reading what is written -/

/-- The last `k` bytes of the character with the number `n`, which continue it. -/
def trail : Nat → Nat → Bytes
  | 0, _ => []
  | k + 1, n => trailing (n / 64 ^ k) :: trail k n

theorem length_trail (k n : Nat) : (trail k n).length = k := by
  induction k with
  | zero => rfl
  | succ k ih => rw [trail, List.length_cons, ih]

/-- That a begun character can be continued to the number `n`. -/
structure Partial.Awaits (p : Partial) (n : Nat) : Prop where
  bits : p.bits = n / 64 ^ (p.rest + 1)
  low : p.low ≤ 0x80 + n / 64 ^ p.rest % 64
  high : 0x80 + n / 64 ^ p.rest % 64 ≤ p.high

theorem toNat_trailing (n : Nat) : (trailing n).toNat = 0x80 + n % 64 := by
  rw [trailing, UInt8.toNat_ofNat']
  omega

namespace Partial.Awaits

variable {p : Partial} {n : Nat}

/-- The next byte of the character is one that is allowed there: the first trailing byte of a long
one is bounded on both sides. -/
theorem allows (h : p.Awaits n) : p.allows (trailing (n / 64 ^ p.rest)) = true := by
  rw [Partial.allows, toNat_trailing, Bool.and_eq_true, decide_eq_true_eq, decide_eq_true_eq]
  exact ⟨h.low, h.high⟩

/-- With the next byte there are six bits more. -/
theorem bits_next (h : p.Awaits n) :
    p.bits * 64 + (trailing (n / 64 ^ p.rest)).toNat % 64 = n / 64 ^ p.rest := by
  rw [h.bits, toNat_trailing, Nat.pow_succ, ← Nat.div_div_eq_div_mul]
  omega

/-- The last byte completes the character. -/
theorem next_of_rest_eq_zero (h : p.Awaits n) (hrest : p.rest = 0) :
    p.next (trailing (n / 64 ^ p.rest)) = .char (Char.ofNat n) := by
  unfold Partial.next
  rw [h.bits_next]
  simp [hrest]

/-- Each byte before continues it. -/
theorem next_of_rest_eq_succ (h : p.Awaits n) {rest : Nat} (hrest : p.rest = rest + 1) :
    ∃ q, p.next (trailing (n / 64 ^ p.rest)) = .more q ∧ q.rest = rest ∧ q.Awaits n := by
  refine ⟨⟨0x80, 0xbf, rest, n / 64 ^ p.rest⟩, ?_, rfl, ⟨?_, ?_, ?_⟩⟩
  · unfold Partial.next
    rw [h.bits_next]
    simp [hrest]
  · rw [hrest]
  · exact Nat.le_add_right _ _
  · show 0x80 + n / 64 ^ rest % 64 ≤ 0xbf
    omega

/-- A character that is continued to its end is read. -/
theorem decodeFrom_append (h : p.Awaits n) (bytes : Bytes) :
    decodeFrom (some p) (trail (p.rest + 1) n ++ bytes) =
      Char.ofNat n :: decodeFrom none bytes := by
  induction hrest : p.rest generalizing p with
  | zero =>
    have hnext := h.next_of_rest_eq_zero hrest
    have hallows := h.allows
    rw [hrest] at hnext hallows
    rw [trail, trail, List.singleton_append, decodeFrom, if_pos hallows, hnext]
  | succ rest ih =>
    obtain ⟨q, hnext, hq, hawaits⟩ := h.next_of_rest_eq_succ hrest
    have hallows := h.allows
    rw [hrest] at hnext hallows
    rw [trail, List.cons_append, decodeFrom, if_pos hallows, hnext]
    exact ih hawaits hq

/-- A character that ends too early is replaced. With one byte more the next state awaits the rest
of the same number. -/
theorem decodeFrom_take (h : p.Awaits n) {k : Nat} (hk : k ≤ p.rest) :
    decodeFrom (some p) ((trail (p.rest + 1) n).take k) = [replacement] := by
  induction k generalizing p with
  | zero => rfl
  | succ k ih =>
    obtain ⟨rest, hrest⟩ := Nat.exists_eq_succ_of_ne_zero (show p.rest ≠ 0 by omega)
    obtain ⟨q, hnext, hq, hawaits⟩ := h.next_of_rest_eq_succ hrest
    rw [trail, List.take_succ_cons, decodeFrom, if_pos h.allows, hnext]
    have hcut := ih hawaits (by omega)
    rwa [hq, ← Nat.succ_eq_add_one rest, ← hrest] at hcut

end Partial.Awaits

/-- What a first byte means for the characters of two, three and four bytes. -/
theorem exists_lead {b : UInt8} {n rest : Nat}
    (h : (b.toNat = 0xc0 + n / 64 ∧ 0x80 ≤ n ∧ n < 0x800 ∧ rest = 0) ∨
      (b.toNat = 0xe0 + n / 4096 ∧ 0x800 ≤ n ∧ n < 0x10000 ∧ (n < 0xd800 ∨ 0xdfff < n) ∧
        rest = 1) ∨
      b.toNat = 0xf0 + n / 262144 ∧ 0x10000 ≤ n ∧ n < 0x110000 ∧ rest = 2) :
    ∃ p, lead b = .more p ∧ p.rest = rest ∧ p.Awaits n := by
  unfold lead
  dsimp only
  rcases h with ⟨hb, hlow, hhigh, rfl⟩ | ⟨hb, hlow, hhigh, hvalid, rfl⟩ | ⟨hb, hlow, hhigh, rfl⟩
  · rw [if_neg (by omega), if_neg (by omega), if_pos (by omega)]
    exact ⟨_, rfl, rfl, by constructor <;> dsimp only <;> omega⟩
  · -- The second byte has fewer values where a shorter spelling or a surrogate would begin.
    rw [if_neg (by omega), if_neg (by omega), if_neg (by omega)]
    by_cases hshort : b.toNat = 0xe0
    · rw [if_pos hshort]
      exact ⟨_, rfl, rfl, by constructor <;> dsimp only <;> omega⟩
    · rw [if_neg hshort]
      by_cases hsurrogate : b.toNat = 0xed
      · rw [if_pos hsurrogate]
        exact ⟨_, rfl, rfl, by constructor <;> dsimp only <;> omega⟩
      · rw [if_neg hsurrogate, if_pos (by omega)]
        exact ⟨_, rfl, rfl, by constructor <;> dsimp only <;> omega⟩
  · -- And where a number would be too large.
    rw [if_neg (by omega), if_neg (by omega), if_neg (by omega), if_neg (by omega),
      if_neg (by omega), if_neg (by omega)]
    by_cases hshort : b.toNat = 0xf0
    · rw [if_pos hshort]
      exact ⟨_, rfl, rfl, by constructor <;> dsimp only <;> omega⟩
    · rw [if_neg hshort]
      by_cases hinner : b.toNat < 0xf4
      · rw [if_pos hinner]
        exact ⟨_, rfl, rfl, by constructor <;> dsimp only <;> omega⟩
      · rw [if_neg hinner, if_pos (by omega)]
        exact ⟨_, rfl, rfl, by constructor <;> dsimp only <;> omega⟩

/-- The first byte of a character that is not ASCII tells how it is continued. -/
theorem exists_lead_trail {c : Char} (hc : 0x80 ≤ c.toNat) :
    ∃ b p, encodeChar c = b :: trail (p.rest + 1) c.toNat ∧ lead b = .more p ∧
      p.Awaits c.toNat := by
  have hvalid : c.toNat < 0xd800 ∨ 0xdfff < c.toNat ∧ c.toNat < 0x110000 := c.valid
  unfold encodeChar
  dsimp only
  generalize c.toNat = n at *
  rw [if_neg (Nat.not_lt.2 hc)]
  -- Two, three or four bytes: the first one says how many are to come.
  split
  · next htwo =>
    obtain ⟨p, hlead, hrest, hawaits⟩ := exists_lead
      (.inl ⟨UInt8.toNat_ofNat_of_lt' (show 0xc0 + n / 64 < 0x100 by omega), hc, htwo, rfl⟩)
    exact ⟨_, p, by simp [hrest, trail], hlead, hawaits⟩
  · next htwo =>
    split
    · next hthree =>
      obtain ⟨p, hlead, hrest, hawaits⟩ := exists_lead
        (.inr (.inl ⟨UInt8.toNat_ofNat_of_lt' (show 0xe0 + n / 4096 < 0x100 by omega),
          Nat.not_lt.1 htwo, hthree, by omega, rfl⟩))
      exact ⟨_, p, by simp [hrest, trail], hlead, hawaits⟩
    · next hthree =>
      obtain ⟨p, hlead, hrest, hawaits⟩ := exists_lead
        (.inr (.inr ⟨UInt8.toNat_ofNat_of_lt' (show 0xf0 + n / 262144 < 0x100 by omega),
          Nat.not_lt.1 hthree, by omega, rfl⟩))
      exact ⟨_, p, by simp [hrest, trail], hlead, hawaits⟩

/-- **A character is read back**, and what follows as if it had not been there. -/
theorem decodeFrom_encodeChar_append (c : Char) (bytes : Bytes) :
    decodeFrom none (encodeChar c ++ bytes) = c :: decodeFrom none bytes := by
  rcases Nat.lt_or_ge c.toNat 0x80 with hc | hc
  · have hlead : lead (UInt8.ofNat c.toNat) = .char c := by
      rw [lead, UInt8.toNat_ofNat_of_lt' (Nat.lt_trans hc (by decide)), if_pos hc,
        Char.ofNat_toNat]
    rw [encodeChar_of_ascii hc, List.singleton_append, decodeFrom, hlead]
  · obtain ⟨b, p, hbytes, hlead, hawaits⟩ := exists_lead_trail hc
    rw [hbytes, List.cons_append, decodeFrom, hlead]
    show decodeFrom (some p) _ = _
    rw [hawaits.decodeFrom_append, Char.ofNat_toNat]

/-- **A character that is cut is replaced**, wherever it is cut. -/
theorem decodeFrom_take_encodeChar (c : Char) {k : Nat} (hpos : 0 < k)
    (hk : k < (encodeChar c).length) :
    decodeFrom none ((encodeChar c).take k) = [replacement] := by
  rcases Nat.lt_or_ge c.toNat 0x80 with hc | hc
  · rw [encodeChar_of_ascii hc, List.length_singleton] at hk
    exact absurd hpos (by omega)
  · obtain ⟨b, p, hbytes, hlead, hawaits⟩ := exists_lead_trail hc
    obtain ⟨k, rfl⟩ := Nat.exists_eq_succ_of_ne_zero (Nat.pos_iff_ne_zero.1 hpos)
    rw [hbytes, List.length_cons, length_trail] at hk
    rw [hbytes, List.take_succ_cons, decodeFrom, hlead]
    exact hawaits.decodeFrom_take (by omega)

/-! ## Texts that end too early

`whole` is defined by going along the characters, without a word about bytes that are cut; that it
is the longest beginning that fits is proved behind it. -/

/-- The characters of a text that are complete within `room` bytes. -/
def whole : Nat → List Char → List Char
  | _, [] => []
  | room, c :: cs =>
    if (encodeChar c).length ≤ room then c :: whole (room - (encodeChar c).length) cs else []

/-- **Of a cut text its complete characters are read**, and a replacement for the one that is cut,
if there is one. Character by character: the first one fits, or it is the one that is cut. -/
theorem decodeLossy_take_encode (room : Nat) (cs : List Char) :
    decodeLossy ((encode cs).take room) = whole room cs ++
      if (encode (whole room cs)).length < min room (encode cs).length then [replacement]
      else [] := by
  show decodeFrom none _ = _
  induction cs generalizing room with
  | nil => simp [encode, whole, decodeFrom]
  | cons c cs ih =>
    rw [encode_cons, whole]
    split
    · next hfits =>
      rw [List.take_append, List.take_of_length_le hfits, decodeFrom_encodeChar_append, ih,
        encode_cons, List.length_append, List.length_append, List.cons_append]
      congr 2
      refine if_congr ?_ rfl rfl
      omega
    · next hcut =>
      rw [List.take_append_of_le_length (by omega), List.nil_append]
      rcases Nat.eq_zero_or_pos room with rfl | hpos
      · rfl
      · rw [decodeFrom_take_encodeChar c hpos (by omega), if_pos]
        rw [List.length_append]
        exact Nat.lt_of_lt_of_le hpos (by omega)

/-- The characters that fit are the first ones. -/
theorem whole_isPrefix (room : Nat) (cs : List Char) : whole room cs <+: cs := by
  induction cs generalizing room with
  | nil => exact List.prefix_refl _
  | cons c cs ih =>
    rw [whole]
    split
    · exact List.cons_prefix_cons.2 ⟨rfl, ih _⟩
    · exact List.nil_prefix

/-- The characters that fit do fit. -/
theorem length_encode_whole_le (room : Nat) (cs : List Char) :
    (encode (whole room cs)).length ≤ room := by
  induction cs generalizing room with
  | nil => exact Nat.zero_le _
  | cons c cs ih =>
    rw [whole]
    split
    · next hfits =>
      have hrest := ih (room - (encodeChar c).length)
      rw [encode_cons, List.length_append]
      omega
    · exact Nat.zero_le _

/-- There are no more characters that fit. The first character is the same and fits, which leaves as
much room for both rests. -/
theorem prefix_whole {room : Nat} {cs front : List Char} (hfront : front <+: cs)
    (hfits : (encode front).length ≤ room) : front <+: whole room cs := by
  induction cs generalizing room front with
  | nil => exact hfront
  | cons c cs ih =>
    rcases front with _ | ⟨d, front⟩
    · exact List.nil_prefix
    · obtain ⟨rfl, hbehind⟩ := List.cons_prefix_cons.1 hfront
      rw [encode_cons, List.length_append] at hfits
      rw [whole, if_pos (by omega)]
      exact List.cons_prefix_cons.2 ⟨rfl, ih hbehind (by omega)⟩

/-- If there is room for all characters they all fit. -/
theorem whole_of_length_le {room : Nat} {cs : List Char} (h : (encode cs).length ≤ room) :
    whole room cs = cs :=
  (whole_isPrefix room cs).eq_of_length_le (prefix_whole (List.prefix_refl cs) h).length_le

/-- A character has at most four bytes, so that one always fits into as many. -/
theorem whole_eq_nil_iff {room : Nat} {cs : List Char} (hroom : 4 ≤ room) :
    whole room cs = [] ↔ cs = [] := by
  cases cs with
  | nil => exact Iff.rfl
  | cons c cs =>
    rw [whole, if_pos (Nat.le_trans (length_encodeChar_le c) hroom)]
    simp

end ControllerLink.Text.Utf8
