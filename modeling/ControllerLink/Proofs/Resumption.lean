/-
# When framing resumes

A reader that joins a stream within a packet, or after damage, may take the
middle of a packet for the start of another one.  It never goes back over bytes
that it has read, so when the same packet comes again and again it can be caught
in a lap of pieces that misses every copy.  That is the only way in which the
packet is never found, and it takes a start marker within the packet.

The bytes are looked at as pieces, and `Parcel.Misses` says that some bytes fall
into pieces of which none is the packet. To be `Parcel.Caught` is then a finite
fact: up to some place within a copy, and from there to the same place in a
later one, the packet is missed.
* A caught reader goes round the same lap for ever (`Parcel.misses_laps`), so
  that it never finds the packet.
* A reader that never finds the packet ends pieces behind any number of copies
  (`Parcel.exists_boundary`). There are only as many places within a copy as it
  has bytes, so one of them comes back, and that is a lap
  (`Parcel.caught_of_not_resumes`).
The example at the end is a packet whose last byte is a start marker.
-/
import ControllerLink.Proofs.ReadAll
import Mathlib.Data.Fintype.Pigeonhole
import Mathlib.Order.Interval.Finset.Nat

set_option autoImplicit false

namespace ControllerLink

/-! ## Copies of a packet -/

namespace Parcel

variable {c : Packet.Config} (F : Parcel c)

/-- The packet of a message so many times. -/
def copies (n : Nat) : Bytes := (List.replicate n F.bytes).flatten

theorem copies_zero : F.copies 0 = [] := rfl

theorem copies_succ (n : Nat) : F.copies (n + 1) = F.bytes ++ F.copies n := rfl

theorem copies_add (m n : Nat) : F.copies (m + n) = F.copies m ++ F.copies n := by
  rw [copies, ← List.replicate_append_replicate, List.flatten_append]
  rfl

theorem copies_succ_right (n : Nat) : F.copies (n + 1) = F.copies n ++ F.bytes := by
  rw [copies_add, copies_succ, copies_zero, List.append_nil]

theorem length_copies (n : Nat) : (F.copies n).length = n * F.bytes.length := by
  induction n with
  | zero => rw [Nat.zero_mul]; rfl
  | succ n ih => rw [copies_succ, List.length_append, ih, Nat.succ_mul, Nat.add_comm]

theorem length_bytes_pos : 0 < F.bytes.length := F.piece.length_pos

/-- The first bytes of many copies are whole copies and the first bytes of one more. -/
theorem take_copies {n k p : Nat} (hk : k < n) (hp : p ≤ F.bytes.length) :
    (F.copies n).take (k * F.bytes.length + p) = F.copies k ++ F.bytes.take p := by
  obtain ⟨m, rfl⟩ := Nat.exists_eq_add_of_lt hk
  rw [Nat.add_assoc, copies_add, copies_succ, ← length_copies, List.take_length_add_append,
    List.take_append_of_le_length hp]

/-- From some place within a copy to the same place within a later one. The rest of one copy, and
the front of a later one, make up a copy. -/
theorem append_lap (g : Bytes) (n m p : Nat) :
    g ++ F.copies (n + (m + 1)) ++ F.bytes.take p =
      g ++ F.copies n ++ F.bytes.take p ++ (F.bytes.drop p ++ F.copies m ++ F.bytes.take p) := by
  have hcopy : F.bytes.take p ++ (F.bytes.drop p ++ F.copies m ++ F.bytes.take p) =
      F.copies (m + 1) ++ F.bytes.take p := by
    rw [copies_succ, List.append_assoc, List.append_assoc, ← List.append_assoc (F.bytes.take p),
      List.take_append_drop]
  rw [List.append_assoc (g ++ F.copies n), hcopy, copies_add]
  simp only [List.append_assoc]

/-! ## Frames that are missed -/

/-- The frame of a message is known by its id and its payload. -/
theorem eq_frame_of_piece {piece : Bytes} {f : Frame} (h : Piece c piece (.frame f))
    (hid : f.id = F.id) (hpayload : f.payload = F.payload) : f = F.frame := by
  have hencode := (Packet.encode_of_piece h).1
  rw [hid, hpayload, F.encode_eq, Except.ok.injEq] at hencode
  have heq : piece ++ [] = F.bytes ++ [] := by rw [hencode]
  exact Polled.frame.inj (h.unique F.piece heq).2

/-- A byte string that falls into pieces of which none is the packet of the message. -/
def Misses (bytes : Bytes) : Prop :=
  ∃ os, Cuts c bytes os ∧ Polled.frame F.frame ∉ os

variable {F}

/-- Bytes that fall into pieces without the packet, and more such bytes behind them. -/
theorem Misses.append {s t : Bytes} (hs : F.Misses s) (ht : F.Misses t) : F.Misses (s ++ t) := by
  obtain ⟨os, hcuts, hos⟩ := hs
  obtain ⟨os', hcuts', hos'⟩ := ht
  refine ⟨os ++ os', hcuts.append hcuts', ?_⟩
  rw [List.mem_append, not_or]
  exact ⟨hos, hos'⟩

/-- What stands behind pieces is missed when all of it together is. -/
theorem Misses.of_append {s t : Bytes} (hs : F.Misses s) (h : F.Misses (s ++ t)) : F.Misses t := by
  obtain ⟨os, hcuts, -⟩ := hs
  obtain ⟨all, hall, hmissed⟩ := h
  obtain ⟨later, rfl, hlater⟩ := hcuts.of_append hall
  exact ⟨later, hlater, fun hmem => hmissed (List.mem_append_right os hmem)⟩

/-- Pieces that begin where the packet stands do not miss it. The first piece is known by the bytes
it stands before, so it is the packet. -/
theorem not_misses_of_append_eq {s t u : Bytes} (hs : s ≠ []) (heq : s ++ t = F.bytes ++ u) :
    ¬ F.Misses s := by
  rintro ⟨os, hcuts, hmissed⟩
  cases hcuts with
  | nil => exact hs rfl
  | cons hpiece hrest =>
    rw [List.append_assoc] at heq
    obtain ⟨-, rfl⟩ := hpiece.unique F.piece heq
    exact hmissed List.mem_cons_self

/-- Whether a reader comes upon the packet of a message when, after the bytes `g`, that packet is
all that it reads, again and again. -/
def Resumes (F : Parcel c) (g : Bytes) : Prop :=
  ∃ n f, Polled.frame f ∈ ((Reader.make c).readAll (.ofBytes (g ++ F.copies n))).1 ∧
    f.id = F.id ∧ f.payload = F.payload

/-- Whether a reader is caught behind the bytes `g`: its pieces come to some place within a copy of
the packet and then, over one lap, to the same place in a later copy, and none of them is the
packet. -/
def Caught (F : Parcel c) (g : Bytes) : Prop :=
  ∃ p k m, p < F.bytes.length ∧ F.Misses (g ++ F.copies k ++ F.bytes.take p) ∧
    F.Misses (F.bytes.drop p ++ F.copies m ++ F.bytes.take p)

/-- Framing resumes when the packet is among the pieces. -/
theorem resumes_iff (g : Bytes) :
    F.Resumes g ↔ ∃ n, Polled.frame F.frame ∈ c.outcomes (g ++ F.copies n) := by
  have hreads : ∀ n, ((Reader.make c).readAll (.ofBytes (g ++ F.copies n))).1 =
      c.results (g ++ F.copies n) ++ [.failed .closed] := by
    intro n
    exact ((Reader.make c).readAll_of_delivery (.whole (g ++ F.copies n))).1
  -- What is read are the pieces that are no dropped byte, and a frame is none.
  have hmem : ∀ n f, Polled.frame f ∈ ((Reader.make c).readAll (.ofBytes (g ++ F.copies n))).1 ↔
      Polled.frame f ∈ c.outcomes (g ++ F.copies n) := by
    intro n f
    rw [hreads n, List.mem_append, Packet.Config.results, List.mem_filter]
    simp
  constructor
  · rintro ⟨n, f, hf, hid, hpayload⟩
    rw [hmem] at hf
    obtain ⟨front, rest, -, hcuts, -⟩ := c.exists_cuts (g ++ F.copies n)
    obtain ⟨-, piece, -, -, hpiece⟩ := hcuts.exists_piece hf
    exact ⟨n, F.eq_frame_of_piece hpiece hid hpayload ▸ hf⟩
  · rintro ⟨n, hn⟩
    exact ⟨n, F.frame, (hmem n _).2 hn, rfl, rfl⟩

/-! ## Laps -/

/-- A caught reader goes round as often as there are copies. -/
theorem misses_laps {g : Bytes} {p k m : Nat}
    (hfront : F.Misses (g ++ F.copies k ++ F.bytes.take p))
    (hlap : F.Misses (F.bytes.drop p ++ F.copies m ++ F.bytes.take p)) (j : Nat) :
    F.Misses (g ++ F.copies (k + j * (m + 1)) ++ F.bytes.take p) := by
  induction j with
  | zero => rwa [Nat.zero_mul, Nat.add_zero]
  | succ j ih =>
    rw [Nat.succ_mul, ← Nat.add_assoc, append_lap]
    exact ih.append hlap

/-- **A caught reader never finds the packet.** After `n` laps the first `n` copies have all been
read. -/
theorem not_resumes_of_caught {g : Bytes} (h : F.Caught g) : ¬ F.Resumes g := by
  obtain ⟨p, k, m, -, hfront, hlap⟩ := h
  rw [resumes_iff]
  rintro ⟨n, hn⟩
  obtain ⟨os, hcuts, hmissed⟩ := misses_laps hfront hlap n
  have hle : n ≤ k + n * (m + 1) := by
    rw [Nat.mul_succ]
    omega
  obtain ⟨extra, hextra⟩ := Nat.exists_eq_add_of_le hle
  rw [hextra, copies_add, ← List.append_assoc, List.append_assoc] at hcuts
  have hfirst := c.outcomes_prefix_append (g ++ F.copies n) (F.copies extra ++ F.bytes.take p)
  rw [Packet.Config.outcomes_of_cuts hcuts] at hfirst
  exact hmissed (hfirst.subset hn)

/-- Wherever the packet is never found, pieces end behind any number of copies. -/
theorem exists_boundary {g : Bytes} (h : ¬ F.Resumes g) (n : Nat) :
    ∃ k p, n ≤ k ∧ p < F.bytes.length ∧ F.Misses (g ++ F.copies k ++ F.bytes.take p) := by
  rw [resumes_iff, not_exists] at h
  -- With so many copies, the piece within which they end begins behind the first `n` of them.
  obtain ⟨front, rest, hsplit, hcuts, hrest⟩ :=
    c.exists_cuts (g ++ F.copies (n + Packet.Config.reach))
  have hshort := Nat.lt_of_lt_of_le (Packet.Config.length_lt_of_cut_eq_none hrest) c.span_le_reach
  have hpos := F.length_bytes_pos
  have hreach : Packet.Config.reach ≤ Packet.Config.reach * F.bytes.length :=
    Nat.le_mul_of_pos_right _ hpos
  have hlen := congrArg List.length hsplit
  rw [List.length_append, List.length_append, length_copies, Nat.add_mul] at hlen
  obtain ⟨q, hq⟩ := Nat.exists_eq_add_of_le (show g.length ≤ front.length by omega)
  -- Counted from the end of `g` the pieces end in the copy with this number, at this place in it.
  have hlow : n ≤ q / F.bytes.length := (Nat.le_div_iff_mul_le hpos).2 (by omega)
  have hhigh : q / F.bytes.length < n + Packet.Config.reach + 1 := by
    refine Nat.div_lt_of_lt_mul ?_
    rw [Nat.mul_comm, Nat.add_mul, Nat.add_mul, Nat.one_mul]
    omega
  have hp : q % F.bytes.length < F.bytes.length := Nat.mod_lt _ hpos
  -- So the front is made of whole copies and the first bytes of one.
  have hfront : front = g ++ F.copies (q / F.bytes.length) ++
      F.bytes.take (q % F.bytes.length) := by
    have htake : (g ++ F.copies (n + Packet.Config.reach + 1)).take front.length = front := by
      rw [copies_succ_right, ← List.append_assoc, hsplit, List.append_assoc, List.take_left' rfl]
    rw [← htake, hq, List.take_length_add_append, List.append_assoc, ← F.take_copies hhigh hp.le,
      Nat.mul_comm, Nat.div_add_mod]
  exact ⟨_, _, hlow, hp, _, hfront ▸ hcuts, h _⟩

/-- **A reader that never finds the packet is caught**: its pieces end in copies without end, but
there are only so many places to end at within a copy, so they come back to one of them. -/
theorem caught_of_not_resumes {g : Bytes} (h : ¬ F.Resumes g) : F.Caught g := by
  choose k p hk hp hmisses using exists_boundary h
  -- Some place is the end of pieces again and again, so also behind the copy where it was first.
  obtain ⟨place, hplace⟩ := Finite.exists_infinite_fiber fun n => (⟨p n, hp n⟩ : Fin F.bytes.length)
  have hinfinite := Set.infinite_coe_iff.1 hplace
  obtain ⟨n, hn⟩ := hinfinite.nonempty
  obtain ⟨n', hn', hlater⟩ := hinfinite.exists_gt (k n)
  have hsame : p n' = p n := congrArg Fin.val ((Set.mem_singleton_iff.1 hn').trans
    (Set.mem_singleton_iff.1 hn).symm)
  have hlt : k n < k n' := Nat.lt_of_lt_of_le hlater (hk n')
  -- From the one to the other is a lap, and it misses the packet because both do.
  obtain ⟨m, hm⟩ := Nat.exists_eq_add_of_lt hlt
  have hback := hmisses n'
  rw [hsame, hm, Nat.add_assoc, append_lap] at hback
  exact ⟨p n, k n, m, hp n, hmisses n, (hmisses n).of_append hback⟩

/-- A packet without a start marker behind its first byte catches no reader: what is met within a
copy is dropped up to the end of the copy, and there stands the next one. -/
theorem not_caught_of_notMem (hclean : c.start ∉ F.bytes.tail) (g : Bytes) : ¬ F.Caught g := by
  rintro ⟨p, k, m, hp, -, hlap⟩
  cases p with
  | zero =>
    -- Such a lap begins with the packet.
    refine not_misses_of_append_eq (t := []) (u := F.copies m) ?_ ?_ hlap
    · intro hnil
      have hlen := congrArg List.length hnil
      rw [List.drop_zero, List.take_zero, List.append_nil, List.length_append] at hlen
      have hpos := F.length_bytes_pos
      simp only [List.length_nil] at hlen
      omega
    · rw [List.drop_zero, List.take_zero, List.append_nil, List.append_nil]
  | succ p =>
    -- The rest of the copy is dropped, and the lap goes on where the next one begins.
    have hdropped : F.Misses (F.bytes.drop (p + 1)) := by
      refine ⟨_, Cuts.of_notMem fun hmem => hclean ?_, ?_⟩
      · rw [← List.drop_tail] at hmem
        exact List.mem_of_mem_drop hmem
      · intro hmem
        exact absurd (List.eq_of_mem_replicate hmem) (by simp)
    rw [List.append_assoc] at hlap
    refine not_misses_of_append_eq (t := F.bytes.drop (p + 1)) (u := F.copies m) ?_ ?_
      (hdropped.of_append hlap)
    · intro hnil
      have hlen := congrArg List.length (List.append_eq_nil_iff.1 hnil).2
      rw [List.length_take, List.length_nil] at hlen
      omega
    · rw [List.append_assoc, List.take_append_drop, ← copies_succ, copies_succ_right]

/-! ## Resumption -/

/-- Behind bytes that do not end within a piece, the first copy is found. -/
theorem resumes_of_cuts {g : Bytes} {os : List Polled} (h : Cuts c g os) : F.Resumes g := by
  rw [resumes_iff]
  refine ⟨1, ?_⟩
  rw [copies_succ, Packet.Config.outcomes_append_of_cuts h,
    Packet.Config.outcomes_append_of_piece F.piece]
  exact List.mem_append_right os List.mem_cons_self

/-- **Framing resumes unless the reader is caught**: for all bytes `g` before it, the packet of a
message is found behind some number of its copies exactly when no lap misses it.  So it is always
found when it has no start marker behind its first byte, and when `g` does not end within a
piece. -/
theorem resumes_iff_not_caught (config : Packet.Config) (F : Parcel config) (g : Bytes) :
    (F.Resumes g ↔ ¬ F.Caught g) ∧ (config.start ∉ F.bytes.tail → F.Resumes g) ∧
      ((∃ os, Cuts config g os) → F.Resumes g) := by
  have hiff : F.Resumes g ↔ ¬ F.Caught g := by
    constructor
    · intro hresumes hcaught
      exact not_resumes_of_caught hcaught hresumes
    · intro hfree
      by_contra hnever
      exact hfree (caught_of_not_resumes hnever)
  refine ⟨hiff, ?_, ?_⟩
  · intro hclean
    rw [hiff]
    exact not_caught_of_notMem hclean g
  · rintro ⟨os, hcuts⟩
    exact resumes_of_cuts hcuts

/-- The report of one shot within the first quarter of a second. -/
def shot (milliseconds : UInt8) : Parcel .inbound where
  id := 0x0d
  payload := [milliseconds, 0, 0, 0, 1]
  allowed := (by decide : 5 ≤ 1024)
  encodable := (by decide : 5 ≤ 65535)

/-- One report holds no other start marker than its first byte, and is found by a reader that took
such a marker for its first byte.  Another one is found behind a byte of garbage. -/
theorem resumes_shot :
    (Packet.Config.inbound.start ∉ (shot 54).bytes.tail ∧ (shot 54).Resumes [0x5a]) ∧
      (∃ os, Cuts .inbound [0x00] os) ∧ (shot 55).Resumes [0x00] := by
  have hclean : Packet.Config.inbound.start ∉ (shot 54).bytes.tail := by decide +kernel
  have hgarbage : ∃ os, Cuts .inbound [0x00] os := ⟨_, .of_notMem (by decide)⟩
  exact ⟨⟨hclean, (resumes_iff_not_caught .inbound (shot 54) [0x5a]).2.1 hclean⟩, hgarbage,
    (resumes_iff_not_caught .inbound (shot 55) [0x00]).2.2 hgarbage⟩

/-- The last byte of a shot report and the first four of the next one, taken for a header. -/
def strayHeader : Header := ⟨0x5a, 0x5a, 0x050d, 0x00⟩

/-- A header that begins with a stray marker does not verify, and is refused as a whole. -/
theorem piece_strayHeader :
    Piece .inbound strayHeader.toBytes (.failed (Packet.headerMismatch strayHeader)) :=
  .damaged rfl (by decide +kernel)

/-- The last byte of this report is a start marker.  A reader that joins the stream there takes it
and the four bytes behind it for a header, and comes to the same byte of every later copy. -/
theorem not_resumes_shot : ¬ (shot 55).Resumes [0x5a] := by
  have hfront : [0x5a] ++ (shot 55).copies 0 ++ (shot 55).bytes.take 4 = strayHeader.toBytes := by
    decide +kernel
  have hlap : (shot 55).bytes.drop 4 ++ (shot 55).copies 0 ++ (shot 55).bytes.take 4 =
      [0xc7, 55, 0, 0, 0, 1, 0x5c] ++ strayHeader.toBytes := by decide +kernel
  refine not_resumes_of_caught ⟨4, 0, 0, by decide +kernel, ?_, ?_⟩
  · rw [hfront]
    exact ⟨_, .single piece_strayHeader, by simp⟩
  · rw [hlap]
    exact ⟨_, (Cuts.of_notMem (by decide)).append (.single piece_strayHeader), by simp⟩

end Parcel

end ControllerLink
