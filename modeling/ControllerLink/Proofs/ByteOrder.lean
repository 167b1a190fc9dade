/-
# The order of texts

Texts whose characters are compared by code point are in the order of their
bytes: of two characters, the one with the lesser code point has the lesser
byte at the first place where their bytes differ.  So members sorted by name
stand in the byte order of their names.

The characters are gone through by the number of bytes that they are written
with.  If the two numbers differ, the first bytes decide, because a longer form
begins with a greater byte; if they are the same, the bytes are compared one
after the other, and each of them holds the next bits of the code point
(`cons_ofNat`, `cons_trailing`, `precedes_trailing`).  A list of characters then
follows the recursion of the lexicographic order.
-/
import ControllerLink.Json.Value
import ControllerLink.Proofs.CutTexts
import Mathlib.Data.String.Basic

set_option autoImplicit false

namespace ControllerLink

namespace Text.Utf8

/-! ## Characters -/

/-- `Precedes x y`: whatever follows the two, the bytes `x` come before the bytes `y`. -/
def Precedes (x y : Bytes) : Prop :=
  ∀ rest rest' : Bytes, x ++ rest < y ++ rest'

namespace Precedes

variable {b b' : UInt8} {x y : Bytes}

theorem head (h : b < b') : Precedes (b :: x) (b' :: y) :=
  fun _ _ => List.cons_lt_cons_iff.2 (Or.inl h)

theorem tail (hb : b = b') (h : Precedes x y) : Precedes (b :: x) (b' :: y) :=
  fun rest rest' => List.cons_lt_cons_iff.2 (Or.inr ⟨hb, h rest rest'⟩)

end Precedes

section

variable {m n : Nat}

theorem ofNat_lt_ofNat (h : m < n) (hn : n < 0x100) : UInt8.ofNat m < UInt8.ofNat n := by
  rw [UInt8.lt_iff_toNat_lt, UInt8.toNat_ofNat', UInt8.toNat_ofNat']
  omega

/-- The last byte decides between numbers that agree in all but their last six bits. -/
theorem precedes_trailing (hsame : m / 64 = n / 64) (h : m < n) :
    Precedes [trailing m] [trailing n] :=
  .head (ofNat_lt_ofNat (by omega) (by omega))

/-- A byte that continues a character puts off the decision to the bytes behind it, if it has
the same bits in both. -/
theorem Precedes.cons_trailing {x y : Bytes} (hsame : m / 64 = n / 64) (hle : m ≤ n)
    (h : m = n → Precedes x y) : Precedes (trailing m :: x) (trailing n :: y) := by
  rcases Nat.lt_or_eq_of_le hle with hlt | heq
  · exact .head (ofNat_lt_ofNat (by omega) (by omega))
  · exact .tail (by rw [heq]) (h heq)

/-- The first byte, likewise. -/
theorem Precedes.cons_ofNat {x y : Bytes} (hle : m ≤ n) (hn : n < 0x100)
    (h : m = n → Precedes x y) : Precedes (UInt8.ofNat m :: x) (UInt8.ofNat n :: y) := by
  rcases Nat.lt_or_eq_of_le hle with hlt | heq
  · exact .head (ofNat_lt_ofNat hlt hn)
  · exact .tail (by rw [heq]) (h heq)

end

/-- The bytes of characters are in the order of their code points. A code point has at most 21 bits,
so that four bytes are always enough. -/
theorem precedes_encodeChar {c d : Char} (h : c < d) : Precedes (encodeChar c) (encodeChar d) := by
  have hlt : c.toNat < d.toNat := h
  have hvalid : d.toNat < 0x110000 := by
    have hd : d.toNat < 0xd800 ∨ 0xdfff < d.toNat ∧ d.toNat < 0x110000 := d.valid
    omega
  unfold encodeChar
  dsimp only
  generalize c.toNat = m at *
  generalize d.toNat = n at *
  -- Either the first bytes differ, or both characters have the same number of bytes.
  split
  · split
    · exact .head (ofNat_lt_ofNat hlt (by omega))
    · split
      · exact .head (ofNat_lt_ofNat (by omega) (by omega))
      · split <;> exact .head (ofNat_lt_ofNat (by omega) (by omega))
  · rw [if_neg (show ¬ n < 0x80 by omega)]
    split
    · split
      · refine .cons_ofNat (by omega) (by omega) fun hfirst => ?_
        exact precedes_trailing (by omega) hlt
      · split <;> exact .head (ofNat_lt_ofNat (by omega) (by omega))
    · rw [if_neg (show ¬ n < 0x800 by omega)]
      split
      · split
        · refine .cons_ofNat (by omega) (by omega) fun hfirst => ?_
          refine .cons_trailing (by omega) (by omega) fun hsecond => ?_
          exact precedes_trailing hsecond hlt
        · exact .head (ofNat_lt_ofNat (by omega) (by omega))
      · rw [if_neg (show ¬ n < 0x10000 by omega)]
        refine .cons_ofNat (by omega) (by omega) fun hfirst => ?_
        refine .cons_trailing (by omega) (by omega) fun hsecond => ?_
        refine .cons_trailing (by omega) (by omega) fun hthird => ?_
        exact precedes_trailing hthird hlt

/-! ## Texts -/

/-- **Texts in the order of their characters** are so in the order of their bytes: a character that
comes later has a first byte that is greater, or the same and then a greater one. -/
theorem encode_lt_encode {cs ds : List Char} (h : cs < ds) : encode cs < encode ds := by
  induction h with
  | nil =>
    next d ds =>
    obtain ⟨b, bytes, hbytes⟩ := List.exists_cons_of_length_pos (length_encodeChar_pos d)
    rw [encode_cons, hbytes]
    exact List.nil_lt_cons b _
  | cons _ ih =>
    next c cs ds _ =>
    rw [encode_cons, encode_cons]
    exact List.append_left_lt ih
  | rel hcd =>
    next c cs d ds =>
    rw [encode_cons, encode_cons]
    exact precedes_encodeChar hcd (encode cs) (encode ds)

/-- **Texts are in the order of their bytes.** The order of the bytes is total, so that one
direction is enough. -/
theorem encode_toList_lt_iff {a b : String} : encode a.toList < encode b.toList ↔ a < b := by
  constructor
  · intro hbytes
    rcases lt_trichotomy a b with h | rfl | h
    · exact h
    · exact absurd hbytes (List.lt_irrefl _)
    · exact absurd hbytes (List.lt_asymm (encode_lt_encode h))
  · intro h
    exact encode_lt_encode h

end Text.Utf8

/-! ## Sorted members -/

namespace Json

open Text

theorem nameLe_iff {a b : String} : nameLe a b = true ↔ a ≤ b := by
  rw [nameLe, Bool.not_eq_true', decide_eq_false_iff_not, not_lt]

/-- **Members sorted by name stand in the byte order of their names**, if no two have the same
name. -/
theorem pairwise_sortMembers {members : List (String × Json)}
    (hnames : (members.map Prod.fst).Nodup) :
    (sortMembers members).Pairwise fun m m' =>
      Utf8.encode m.1.toList < Utf8.encode m'.1.toList := by
  have hperm : (sortMembers members).Perm members := List.mergeSort_perm _ _
  have hne : (sortMembers members).Pairwise fun m m' => m.1 ≠ m'.1 :=
    List.pairwise_map.1 ((hperm.map Prod.fst).nodup_iff.2 hnames)
  have hle : (sortMembers members).Pairwise fun m m' => nameLe m.1 m'.1 = true := by
    refine List.pairwise_mergeSort ?_ ?_ members
    · intro a b c hab hbc
      exact nameLe_iff.2 (le_trans (nameLe_iff.1 hab) (nameLe_iff.1 hbc))
    · intro a b
      rw [Bool.or_eq_true, nameLe_iff, nameLe_iff]
      exact le_total a.1 b.1
  refine (hle.and hne).imp fun h => Utf8.encode_toList_lt_iff.2 ?_
  exact lt_of_le_of_ne (nameLe_iff.1 h.1) h.2

end Json

end ControllerLink
