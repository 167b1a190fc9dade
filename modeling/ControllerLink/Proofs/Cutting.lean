/-
# Cutting a byte string

A reader takes a stream apart from left to right: a byte outside of a packet, a
header that is refused, or all bytes that a header announces.  `Piece` says what
these pieces are, `cut` finds the one at the front of a byte string, and
`outcomes` is what comes of all of them in turn.  None of this knows of reads,
so that how the bytes arrive cannot matter here.

`Piece` and `cut` say the same, once as a relation between bytes and their
outcome and once as a function that decides it (`cut_of_piece`, `piece_of_cut`).
That a piece is found whatever stands behind it makes cutting deterministic:
bytes that fall into pieces can be taken off the front of any longer byte
string.
-/
import ControllerLink.Proofs.PacketImage
import ControllerLink.Stream.Reader

set_option autoImplicit false

namespace ControllerLink

/-! ## Pieces -/

/-- What comes of the bytes that the header `h` announces. -/
def Packet.opened (h : Header) (packet : Bytes) : Polled :=
  match Packet.open? h packet with
  | .ok f => .frame f
  | .error e => .failed e

/-- The pieces that a reader with configuration `c` takes off a stream, and what comes of each. -/
inductive Piece (c : Packet.Config) : Bytes → Polled → Prop where
  /-- A byte outside of a packet. -/
  | dropped {b : UInt8} (hb : b ≠ c.start) : Piece c [b] .idle
  /-- A header that fails its check. -/
  | damaged {h : Header} (hs : h.start = c.start) (hv : h.isValid = false) :
      Piece c h.toBytes (.failed (Packet.headerMismatch h))
  /-- A header that announces too long a payload. -/
  | oversized {h : Header} (hs : h.start = c.start) (hv : h.isValid = true)
      (hbig : c.maxPayload < h.length.toNat) :
      Piece c h.toBytes (.failed (.payloadTooLarge h.length.toNat c.maxPayload))
  /-- All bytes that a header announces, the header among them. -/
  | packet {h : Header} {packet : Bytes} (hs : h.start = c.start) (hv : h.isValid = true)
      (hfit : h.length.toNat ≤ c.maxPayload) (hfront : packet.take Header.size = h.toBytes)
      (hlen : packet.length = h.packetSize) : Piece c packet (Packet.opened h packet)

/-- What a reader counts for a piece. -/
def ReaderStats.count (s : ReaderStats) : Polled → ReaderStats
  | .idle => { s with skippedBytes := s.skippedBytes + 1 }
  | .frame _ => { s with frames := s.frames + 1 }
  | .failed (.headerChecksum _ _) => { s with headerErrors := s.headerErrors + 1 }
  | .failed (.packetChecksum _ _) => { s with packetErrors := s.packetErrors + 1 }
  | .failed (.payloadTooLarge _ _) => { s with oversized := s.oversized + 1 }
  | .failed (.truncated _ _) => { s with truncated := s.truncated + 1 }
  | _ => s

namespace Packet

/-- The bytes behind a header are a frame or a failed packet check, never anything else. -/
theorem opened_cases (h : Header) (packet : Bytes) :
    (∃ f, open? h packet = .ok f ∧ opened h packet = .frame f) ∨
      open? h packet = .error (packetMismatch packet) ∧
        opened h packet = .failed (packetMismatch packet) := by
  unfold opened
  rcases hopen : open? h packet with e | f
  · right
    unfold open? at hopen
    split at hopen
    · exact absurd hopen (by simp)
    · rw [Except.error.injEq] at hopen
      exact ⟨by rw [hopen], by rw [hopen]⟩
  · exact .inl ⟨f, rfl, rfl⟩

/-- **A frame is the image of the encoder**: a piece of which a frame comes is the packet that is
written for the frame's id and payload, and the payload is not longer than allowed. -/
theorem encode_of_piece {c : Config} {packet : Bytes} {f : Frame}
    (h : Piece c packet (.frame f)) :
    encode c.start f.id f.payload = .ok packet ∧ f.payload.length ≤ c.maxPayload := by
  generalize ho : Polled.frame f = o at h
  cases h with
  | dropped hb => exact absurd ho (by simp)
  | damaged hs hv => exact absurd ho (by simp)
  | oversized hs hv hbig => exact absurd ho (by simp)
  | @packet h packet hs hv hfit hfront hlen =>
    rcases opened_cases h packet with ⟨f', hopen, hopened⟩ | ⟨-, hopened⟩
    · rw [hopened, Polled.frame.injEq] at ho
      subst ho
      -- The packet is the header with the payload behind it and the checksum that goes with both.
      obtain ⟨hheader, hsize, himage⟩ := eq_withHeader_of_open? hopen hfront hlen
      -- A sound header is the only one with its id and length, so the encoder makes the same.
      have hmake : Header.make c.start f.id (UInt16.ofNat f.payload.length) = h := by
        rw [hsize, UInt16.ofNat_toNat, Frame.id, hheader, ← hs, Header.make_of_isValid hv]
      have hlimit : f.payload.length ≤ lengthLimit := by
        rw [hsize]
        exact Nat.le_of_lt_succ h.length.toNat_lt
      refine ⟨?_, hsize ▸ hfit⟩
      rw [encode, if_pos hlimit, hmake, ← himage]
    · rw [hopened] at ho
      exact absurd ho (by simp)

end Packet

/-- The packet of a message is a piece, and the message comes of it. -/
theorem Parcel.piece {c : Packet.Config} (p : Parcel c) : Piece c p.bytes (.frame p.frame) := by
  have hopened : Packet.opened p.header p.bytes = .frame p.frame := by
    rw [Packet.opened, bytes, Packet.open?_withHeader _ _ p.toNat_length_header.symm, frame]
  rw [← hopened]
  exact .packet rfl (Header.isValid_make _ _ _) (p.toNat_length_header ▸ p.allowed) p.take_bytes
    p.packetSize_header.symm

/-! ## The piece at the front -/

namespace Packet.Config

/-- What comes of bytes that begin with the header `h`, and how many of them that takes. -/
def judge (c : Config) (h : Header) (bytes : Bytes) : Option (Polled × Nat) :=
  if !h.isValid then some (.failed (headerMismatch h), Header.size)
  else if c.maxPayload < h.length.toNat then
    some (.failed (.payloadTooLarge h.length.toNat c.maxPayload), Header.size)
  else if bytes.length < h.packetSize then none
  else some (opened h (bytes.take h.packetSize), h.packetSize)

/-- What comes of the piece at the front of `bytes`, and its length; `none` when the bytes end
within it. -/
def cut (c : Config) : Bytes → Option (Polled × Nat)
  | [] => none
  | b :: bs =>
    if b = c.start then (Header.ofBytes? (b :: bs)).bind fun h => c.judge h (b :: bs)
    else some (.idle, 1)

/-- A byte that is no start marker is a piece of its own, and dropped. -/
theorem cut_cons_of_ne (c : Config) {b : UInt8} (hb : b ≠ c.start) (bs : Bytes) :
    c.cut (b :: bs) = some (.idle, 1) := by
  rw [cut, if_neg hb]

/-- From a start marker on, the header decides what the piece is. -/
theorem cut_cons_of_eq (c : Config) {b : UInt8} (hb : b = c.start) (bs : Bytes) :
    c.cut (b :: bs) = (Header.ofBytes? (b :: bs)).bind fun h => c.judge h (b :: bs) := by
  rw [cut, if_pos hb]

/-- Bytes that begin with a header are judged by it. -/
theorem cut_of_header (c : Config) {h : Header} (hs : h.start = c.start) (rest : Bytes) :
    c.cut (h.toBytes ++ rest) = c.judge h (h.toBytes ++ rest) := by
  have hread := Header.ofBytes?_toBytes h rest
  rw [Header.toBytes, Header.fields, Header.fieldBytes, List.cons_append,
    List.cons_append] at hread ⊢
  rw [cut_cons_of_eq c hs, hread, Option.bind_some]

/-- **A piece is found whatever stands behind it.** -/
theorem cut_of_piece {c : Config} {piece : Bytes} {o : Polled} (h : Piece c piece o)
    (rest : Bytes) : c.cut (piece ++ rest) = some (o, piece.length) := by
  cases h with
  | dropped hb => exact c.cut_cons_of_ne hb rest
  | damaged hs hv =>
    rw [c.cut_of_header hs, judge, hv, Bool.not_false, if_pos rfl, Header.length_toBytes]
  | oversized hs hv hbig =>
    rw [c.cut_of_header hs, judge, hv, Bool.not_true, if_neg (by simp), if_pos hbig,
      Header.length_toBytes]
  | @packet h _ hs hv hfit hfront hlen =>
    -- The header is read before the whole packet is, and it is the same header with more behind it.
    have hsplit : piece ++ rest = h.toBytes ++ (piece.drop Header.size ++ rest) := by
      rw [← List.append_assoc, ← hfront, List.take_append_drop]
    have hlong : ¬ (piece ++ rest).length < h.packetSize := by
      rw [List.length_append]
      omega
    rw [hsplit, c.cut_of_header hs, ← hsplit, judge, hv, Bool.not_true, if_neg (by simp),
      if_neg (Nat.not_lt.2 hfit), if_neg hlong, List.take_left' hlen, hlen]

/-- What a header is judged to take is a piece. The checks of `judge` are gone through in their
order, and each leaves one constructor. -/
theorem piece_of_judge {c : Config} {h : Header} {bytes : Bytes} {o : Polled} {n : Nat}
    (hs : h.start = c.start) (hlen : Header.size ≤ bytes.length)
    (hfront : bytes.take Header.size = h.toBytes) (hjudge : c.judge h bytes = some (o, n)) :
    n ≤ bytes.length ∧ Piece c (bytes.take n) o := by
  unfold judge at hjudge
  split at hjudge
  · next hv =>
    rw [Option.some.injEq, Prod.mk.injEq] at hjudge
    obtain ⟨rfl, rfl⟩ := hjudge
    rw [hfront]
    exact ⟨hlen, .damaged hs (by simpa using hv)⟩
  next hv =>
  have hv : h.isValid = true := by simpa using hv
  split at hjudge
  · next hbig =>
    rw [Option.some.injEq, Prod.mk.injEq] at hjudge
    obtain ⟨rfl, rfl⟩ := hjudge
    rw [hfront]
    exact ⟨hlen, .oversized hs hv hbig⟩
  next hfit =>
  split at hjudge
  · exact absurd hjudge (by simp)
  · next hlong =>
    rw [Option.some.injEq, Prod.mk.injEq] at hjudge
    obtain ⟨rfl, rfl⟩ := hjudge
    have hsize : Header.size ≤ h.packetSize := by
      rw [Header.packetSize]
      omega
    refine ⟨Nat.not_lt.1 hlong, .packet hs hv (Nat.not_lt.1 hfit) ?_ ?_⟩
    · rw [List.take_take, Nat.min_eq_left hsize, hfront]
    · rw [List.length_take, Nat.min_eq_left (Nat.not_lt.1 hlong)]

/-- **What is found at the front is a piece.** -/
theorem piece_of_cut {c : Config} {bytes : Bytes} {o : Polled} {n : Nat}
    (h : c.cut bytes = some (o, n)) : n ≤ bytes.length ∧ Piece c (bytes.take n) o := by
  rcases bytes with _ | ⟨b, bs⟩
  · exact absurd h (by simp [cut])
  by_cases hb : b = c.start
  · rw [c.cut_cons_of_eq hb, Option.bind_eq_some_iff] at h
    obtain ⟨hd, hread, hjudge⟩ := h
    have hlen : Header.size ≤ (b :: bs).length := by
      rw [← Header.isSome_ofBytes?_iff, hread]
      rfl
    have hfront := Header.take_of_ofBytes? hread
    -- The first byte that was read is the first byte of the header.
    have hs : hd.start = c.start := by
      have hfirst : (b :: bs).head? = hd.toBytes.head? := by
        rw [← hfront]
        rfl
      rw [← hb]
      exact (Option.some.inj hfirst).symm
    exact piece_of_judge hs hlen hfront hjudge
  · rw [c.cut_cons_of_ne hb, Option.some.injEq, Prod.mk.injEq] at h
    obtain ⟨rfl, rfl⟩ := h
    exact ⟨by simp, .dropped hb⟩

/-- The size of the longest packet that a reader with this configuration accepts. -/
def span (c : Config) : Nat :=
  Header.size + min c.maxPayload Packet.lengthLimit + Header.checksumSize

/-- The size of the longest packet that a header can announce. -/
def reach : Nat := Header.size + Packet.lengthLimit + Header.checksumSize

/-- No packet is longer than the limit on payloads allows. -/
theorem span_le_reach (c : Config) : c.span ≤ reach := by
  have hlimit : min c.maxPayload Packet.lengthLimit ≤ Packet.lengthLimit := Nat.min_le_right _ _
  unfold span reach
  omega

/-- A header is no longer than any packet. -/
theorem size_le_span (c : Config) : Header.size ≤ c.span := by
  rw [span, Nat.add_assoc]
  exact Nat.le_add_right _ _

/-- A packet with an accepted payload is no longer than the longest. -/
theorem packetSize_le_span (c : Config) {h : Header} (hfit : h.length.toNat ≤ c.maxPayload) :
    h.packetSize ≤ c.span := by
  have hlimit : h.length.toNat ≤ Packet.lengthLimit := Nat.le_of_lt_succ h.length.toNat_lt
  have hmin : h.length.toNat ≤ min c.maxPayload Packet.lengthLimit := Nat.le_min.2 ⟨hfit, hlimit⟩
  rw [Header.packetSize, span]
  omega

/-- Bytes that end within a piece are fewer than the longest packet has. -/
theorem length_lt_of_cut_eq_none {c : Config} {bytes : Bytes} (h : c.cut bytes = none) :
    bytes.length < c.span := by
  have hsize := c.size_le_span
  rcases bytes with _ | ⟨b, bs⟩
  · exact Nat.lt_of_lt_of_le (by decide) hsize
  by_cases hb : b = c.start
  · rw [c.cut_cons_of_eq hb] at h
    -- Either there is no whole header, or the packet that it announces is not all there.
    rcases hread : Header.ofBytes? (b :: bs) with _ | hd
    · have hshort : (b :: bs).length < Header.size := by
        rw [← Option.not_isSome_iff_eq_none, Header.isSome_ofBytes?_iff, Nat.not_le] at hread
        exact hread
      exact Nat.lt_of_lt_of_le hshort hsize
    · rw [hread, Option.bind_some, judge] at h
      split at h
      · exact absurd h (by simp)
      split at h
      · exact absurd h (by simp)
      next hfit =>
      split at h
      · next hshort =>
        exact Nat.lt_of_lt_of_le hshort (c.packetSize_le_span (Nat.not_lt.1 hfit))
      · exact absurd h (by simp)
  · rw [c.cut_cons_of_ne hb] at h
    exact absurd h (by simp)

end Packet.Config

/-- A piece has at least one byte. -/
theorem Piece.length_pos {c : Packet.Config} {piece : Bytes} {o : Polled} (h : Piece c piece o) :
    0 < piece.length := by
  cases h with
  | dropped hb => exact Nat.one_pos
  | damaged hs hv => exact Nat.succ_pos _
  | oversized hs hv hbig => exact Nat.succ_pos _
  | packet hs hv hfit hfront hlen =>
    rw [hlen, Header.packetSize, Header.size]
    omega

/-- A piece that is more than a dropped byte begins with the start marker. -/
theorem Piece.getElem?_zero {c : Packet.Config} {piece : Bytes} {o : Polled} (h : Piece c piece o)
    (ho : o ≠ .idle) : piece[0]? = some c.start := by
  cases h with
  | dropped hb => exact absurd rfl ho
  | damaged hs hv => exact congrArg some hs
  | oversized hs hv hbig => exact congrArg some hs
  | @packet h _ hs hv hfit hfront hlen =>
    have hfirst : (piece.take Header.size)[0]? = some h.start := by
      rw [hfront]
      rfl
    rwa [List.getElem?_take_of_lt (by decide), hs] at hfirst

/-- No piece is longer than the longest packet. -/
theorem Piece.length_le_span {c : Packet.Config} {piece : Bytes} {o : Polled}
    (h : Piece c piece o) : piece.length ≤ c.span := by
  have hsize := c.size_le_span
  cases h with
  | dropped hb => exact Nat.le_trans (by simp [Header.size]) hsize
  | damaged hs hv => exact hsize
  | oversized hs hv hbig => exact hsize
  | packet hs hv hfit hfront hlen =>
    rw [hlen]
    exact c.packetSize_le_span hfit

/-- No two pieces can stand at the same place. Both are what is cut off the front of the
same bytes. -/
theorem Piece.unique {c : Packet.Config} {piece piece' rest rest' : Bytes} {o o' : Polled}
    (h : Piece c piece o) (h' : Piece c piece' o') (heq : piece ++ rest = piece' ++ rest') :
    piece = piece' ∧ o = o' := by
  have hcut := Packet.Config.cut_of_piece h rest
  rw [heq, Packet.Config.cut_of_piece h' rest', Option.some.injEq, Prod.mk.injEq] at hcut
  exact ⟨(List.append_inj heq hcut.2.symm).1, hcut.1.symm⟩

/-- The errors that refuse a packet of which all was read that its check needs. -/
def PacketError.IsRefusal : PacketError → Prop
  | .headerChecksum _ _ | .packetChecksum _ _ | .payloadTooLarge _ _ => True
  | _ => False

/-- What comes of a piece is a frame, a refusal, or nothing yet. -/
theorem Piece.outcome_cases {c : Packet.Config} {piece : Bytes} {o : Polled} (h : Piece c piece o) :
    o = .idle ∨ (∃ f, o = .frame f) ∨ ∃ e : PacketError, o = .failed e ∧ e.IsRefusal := by
  cases h with
  | dropped hb => exact .inl rfl
  | damaged hs hv => exact .inr (.inr ⟨_, rfl, trivial⟩)
  | oversized hs hv hbig => exact .inr (.inr ⟨_, rfl, trivial⟩)
  | @packet h _ hs hv hfit hfront hlen =>
    rcases Packet.opened_cases h piece with ⟨f, -, ho⟩ | ⟨-, ho⟩
    · exact .inr (.inl ⟨f, ho⟩)
    · exact .inr (.inr ⟨_, ho, trivial⟩)

/-! ## All pieces in turn -/

/-- `Cuts c bytes os`: the byte string falls into pieces without rest, and `os` comes of them. -/
inductive Cuts (c : Packet.Config) : Bytes → List Polled → Prop where
  | nil : Cuts c [] []
  | cons {piece rest : Bytes} {o : Polled} {os : List Polled} (h : Piece c piece o)
      (hrest : Cuts c rest os) : Cuts c (piece ++ rest) (o :: os)

namespace Cuts

variable {c : Packet.Config} {s t : Bytes} {os os' : List Polled}

theorem single {piece : Bytes} {o : Polled} (h : Piece c piece o) : Cuts c piece [o] := by
  simpa using cons h nil

theorem append (hs : Cuts c s os) (ht : Cuts c t os') : Cuts c (s ++ t) (os ++ os') := by
  induction hs with
  | nil => exact ht
  | cons h hrest ih =>
    rw [List.append_assoc]
    exact cons h ih

/-- Everything that comes of a byte string comes of a piece that lies in it. -/
theorem exists_piece (h : Cuts c s os) {o : Polled} (ho : o ∈ os) :
    ∃ front piece back, s = front ++ piece ++ back ∧ Piece c piece o := by
  induction h with
  | nil => exact absurd ho (by simp)
  | @cons piece rest o' os hpiece hrest ih =>
    rcases List.mem_cons.1 ho with rfl | ho
    · exact ⟨[], piece, rest, rfl, hpiece⟩
    · obtain ⟨front, piece', back, rfl, hpiece'⟩ := ih ho
      refine ⟨piece ++ front, piece', back, ?_, hpiece'⟩
      rw [List.append_assoc, List.append_assoc, List.append_assoc]

/-- **Cutting is deterministic**: when the pieces of `s` are known, those of `s ++ t` are these and
the pieces of `t`. -/
theorem of_append (hs : Cuts c s os) {all : List Polled} (h : Cuts c (s ++ t) all) :
    ∃ later, all = os ++ later ∧ Cuts c t later := by
  induction hs generalizing all with
  | nil => exact ⟨all, rfl, h⟩
  | @cons piece rest o os hpiece hrest ih =>
    generalize hbytes : piece ++ rest ++ t = bytes at h
    cases h with
    | nil =>
      have hpos := hpiece.length_pos
      rw [List.append_assoc, List.append_eq_nil_iff] at hbytes
      rw [hbytes.1] at hpos
      exact absurd hpos (Nat.lt_irrefl 0)
    | cons hpiece' hrest' =>
      rw [List.append_assoc] at hbytes
      -- Both begin with the same piece.
      obtain ⟨rfl, rfl⟩ := hpiece.unique hpiece' hbytes
      rw [← List.append_cancel_left hbytes] at hrest'
      obtain ⟨later, rfl, hlater⟩ := ih hrest'
      exact ⟨later, rfl, hlater⟩

/-- Bytes without a start marker are dropped one by one. -/
theorem of_notMem (hs : c.start ∉ s) : Cuts c s (List.replicate s.length .idle) := by
  induction s with
  | nil => exact nil
  | cons b bs ih =>
    rw [List.mem_cons, not_or] at hs
    have hdropped : Piece c [b] .idle := .dropped (Ne.symm hs.1)
    exact cons hdropped (ih hs.2)

end Cuts

/-- Dropped bytes leave no result. -/
theorem Polled.filter_replicate_idle (n : Nat) :
    (List.replicate n Polled.idle).filter (· ≠ .idle) = [] := by
  rw [List.filter_replicate, if_neg (by simp)]

/-- Packets one behind the other fall into just these pieces. -/
theorem Parcel.cuts_flatMap {c : Packet.Config} (packets : List (Parcel c)) :
    Cuts c (packets.flatMap Parcel.bytes) (packets.map fun p => .frame p.frame) := by
  induction packets with
  | nil => exact .nil
  | cons p packets ih =>
    rw [List.flatMap_cons]
    exact .cons p.piece ih

namespace Packet.Config

/-- What comes of the pieces of `bytes`, up to the one within which they end. -/
def outcomes (c : Config) (bytes : Bytes) : List Polled :=
  match _found : c.cut bytes with
  | none => []
  | some (o, n) => o :: c.outcomes (bytes.drop n)
  termination_by bytes.length
  decreasing_by
    obtain ⟨hn, hpiece⟩ := piece_of_cut _found
    have hpos := hpiece.length_pos
    rw [List.length_take] at hpos
    rw [List.length_drop]
    omega

/-- From bytes that are the beginning of a packet nothing comes yet. -/
theorem outcomes_of_cut_eq_none {c : Config} {bytes : Bytes} (h : c.cut bytes = none) :
    c.outcomes bytes = [] := by
  rw [outcomes]
  split
  · rfl
  · next hfound => exact absurd (h.symm.trans hfound) (by simp)

/-- What comes of some bytes is what comes of their first piece, and then of the others. -/
theorem outcomes_of_cut_eq_some {c : Config} {bytes : Bytes} {o : Polled} {n : Nat}
    (h : c.cut bytes = some (o, n)) : c.outcomes bytes = o :: c.outcomes (bytes.drop n) := by
  rw [outcomes]
  split
  · next hfound => exact absurd (hfound.symm.trans h) (by simp)
  · next o' n' hfound =>
    rw [h, Option.some.injEq, Prod.mk.injEq] at hfound
    obtain ⟨rfl, rfl⟩ := hfound
    rfl

/-- The piece at the front comes first. -/
theorem outcomes_append_of_piece {c : Config} {piece : Bytes} {o : Polled} (h : Piece c piece o)
    (rest : Bytes) : c.outcomes (piece ++ rest) = o :: c.outcomes rest := by
  rw [outcomes_of_cut_eq_some (cut_of_piece h rest), List.drop_left' rfl]

/-- The pieces of a byte string come first, whatever stands behind it. -/
theorem outcomes_append_of_cuts {c : Config} {s : Bytes} {os : List Polled} (h : Cuts c s os)
    (rest : Bytes) : c.outcomes (s ++ rest) = os ++ c.outcomes rest := by
  induction h with
  | nil => rfl
  | cons hpiece hrest ih =>
    rw [List.append_assoc, outcomes_append_of_piece hpiece, ih, List.cons_append]

theorem outcomes_nil (c : Config) : c.outcomes [] = [] :=
  outcomes_of_cut_eq_none rfl

/-- A byte string that falls into pieces without rest comes to just these. -/
theorem outcomes_of_cuts {c : Config} {s : Bytes} {os : List Polled} (h : Cuts c s os) :
    c.outcomes s = os := by
  have hs := outcomes_append_of_cuts h []
  rwa [List.append_nil, outcomes_nil, List.append_nil] at hs

/-- Every byte string is pieces and then the beginning of one more. A piece may have any length, so
the induction is on what is left behind it. -/
theorem exists_cuts (c : Config) (bytes : Bytes) :
    ∃ front rest, bytes = front ++ rest ∧ Cuts c front (c.outcomes bytes) ∧ c.cut rest = none := by
  induction hlen : bytes.length using Nat.strongRecOn generalizing bytes with
  | _ len ih =>
    rcases hcut : c.cut bytes with _ | ⟨o, n⟩
    · exact ⟨[], bytes, rfl, by rw [outcomes_of_cut_eq_none hcut]; exact .nil, hcut⟩
    -- A piece has a byte at least, so that less is left behind it.
    · obtain ⟨hn, hpiece⟩ := piece_of_cut hcut
      have hpos := hpiece.length_pos
      rw [List.length_take] at hpos
      obtain ⟨front, rest, hsplit, hcuts, hrest⟩ :=
        ih (bytes.drop n).length (by rw [List.length_drop]; omega) (bytes.drop n) rfl
      refine ⟨bytes.take n ++ front, rest, ?_, ?_, hrest⟩
      · rw [List.append_assoc, ← hsplit, List.take_append_drop]
      · rw [outcomes_of_cut_eq_some hcut]
        exact .cons hpiece hcuts

/-- What comes of a byte string comes first of every longer one. -/
theorem outcomes_prefix_append (c : Config) (bytes rest : Bytes) :
    c.outcomes bytes <+: c.outcomes (bytes ++ rest) := by
  obtain ⟨front, tail, hsplit, hcuts, -⟩ := c.exists_cuts bytes
  refine ⟨c.outcomes (tail ++ rest), ?_⟩
  rw [← outcomes_append_of_cuts hcuts, ← List.append_assoc, ← hsplit]

end Packet.Config

end ControllerLink
