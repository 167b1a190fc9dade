/-
# Damage stays local

A stream is put together from garbage, sound packets and packets damaged in one
of three ways.  Every segment falls into pieces of its own, whatever stands
before and behind it, so a reader finds each sound packet and reports each
damaged one, in their order.

A segment states what it is by its fields: garbage holds no start marker, a
damaged header fails its check, an oversized packet has a sound one, and a
damaged body has a sound header and the size that it announces.  So a list of
segments is a stream with its damage written down, and what a reader tells and
counts is read off the list (`Segment.result`, `tally`).
-/
import ControllerLink.Proofs.ReadAll
import Mathlib.Algebra.GroupWithZero.Nat

set_option autoImplicit false

namespace ControllerLink

/-! ## Segments -/

/-- The segments that a stream for a reader with configuration `c` is put together from. -/
inductive Segment (c : Packet.Config) where
  /-- Bytes without a start marker. -/
  | garbage (bytes : Bytes) (clean : c.start ∉ bytes)
  /-- The packet of a message. -/
  | packet (p : Parcel c)
  /-- A packet with other bytes, as many of them, behind its header, so that the packet check
  fails. -/
  | damagedBody (p : Parcel c) (body : Bytes)
      (length_body : body.length = p.payload.length + Header.checksumSize)
      (damaged : Checksum.verify16 (p.header.toBytes ++ body) = false)
  /-- A packet with another header, so that the header check fails; no start marker stands behind
  the header. -/
  | damagedHeader (p : Parcel c) (h : Header) (start : h.start = c.start)
      (damaged : h.isValid = false) (clean : c.start ∉ p.bytes.drop Header.size)
  /-- A valid header that announces too long a payload. -/
  | oversized (h : Header) (start : h.start = c.start) (valid : h.isValid = true)
      (big : c.maxPayload < h.length.toNat)

/-- The kinds of segments. -/
inductive SegmentKind where
  | garbage
  | packet
  | damagedBody
  | damagedHeader
  | oversized
deriving DecidableEq, Repr

namespace Segment

variable {c : Packet.Config}

/-- The kind of a segment. -/
def kind : Segment c → SegmentKind
  | garbage _ _ => .garbage
  | packet _ => .packet
  | damagedBody _ _ _ _ => .damagedBody
  | damagedHeader _ _ _ _ _ => .damagedHeader
  | oversized _ _ _ _ => .oversized

/-- The bytes of a segment. -/
def bytes : Segment c → Bytes
  | garbage bytes _ => bytes
  | packet p => p.bytes
  | damagedBody p body _ _ => p.header.toBytes ++ body
  | damagedHeader p h _ _ _ => h.toBytes ++ p.bytes.drop Header.size
  | oversized h _ _ _ => h.toBytes

/-- What is told of a segment. -/
def result : Segment c → Option Polled
  | garbage _ _ => none
  | packet p => some (.frame p.frame)
  | damagedBody p body _ _ => some (.failed (Packet.packetMismatch (p.header.toBytes ++ body)))
  | damagedHeader _ h _ _ _ => some (.failed (Packet.headerMismatch h))
  | oversized h _ _ _ => some (.failed (.payloadTooLarge h.length.toNat c.maxPayload))

/-- How many bytes of a segment are dropped in the hunt for a start marker: all of garbage, and
what stands behind a damaged header. -/
def skipped : Segment c → Nat
  | garbage bytes _ => bytes.length
  | damagedHeader p _ _ _ _ => (p.bytes.drop Header.size).length
  | _ => 0

/-- The result of a segment is never that of a dropped byte. -/
theorem result_ne_idle (s : Segment c) : s.result ≠ some .idle := by
  cases s <;> simp [result]

/-- **Every segment falls into pieces of its own**: the one that something is told of, if there is
one, and then the dropped bytes. -/
theorem cuts (s : Segment c) :
    Cuts c s.bytes (s.result.toList ++ List.replicate s.skipped .idle) := by
  cases s with
  | garbage bytes clean => exact .of_notMem clean
  | packet p => exact .single p.piece
  | damagedBody p body length_body damaged =>
    -- The header is sound, so all that it announces is read before the check fails.
    have hopened : Packet.opened p.header (p.header.toBytes ++ body) =
        .failed (Packet.packetMismatch (p.header.toBytes ++ body)) := by
      rw [Packet.opened, Packet.open?, damaged, if_neg (by simp)]
    have hlen : (p.header.toBytes ++ body).length = p.header.packetSize := by
      rw [List.length_append, Header.length_toBytes, length_body, Header.packetSize,
        p.toNat_length_header, Nat.add_assoc]
    have hfit : p.header.length.toNat ≤ c.maxPayload := by
      rw [p.toNat_length_header]
      exact p.allowed
    show Cuts c (p.header.toBytes ++ body) [_]
    rw [← hopened]
    exact .single (.packet rfl (Header.isValid_make _ _ _) hfit (List.take_left' rfl) hlen)
  | damagedHeader p h start damaged clean =>
    -- The refused header is a piece, and nothing behind it can begin another one.
    exact .cons (.damaged start damaged) (.of_notMem clean)
  | oversized h start valid big => exact .single (.oversized start valid big)

/-- What comes of a list of segments, all told. -/
theorem cuts_flatMap (segments : List (Segment c)) :
    Cuts c (segments.flatMap bytes)
      (segments.flatMap fun s => s.result.toList ++ List.replicate s.skipped .idle) := by
  induction segments with
  | nil => exact .nil
  | cons s segments ih =>
    rw [List.flatMap_cons, List.flatMap_cons]
    exact s.cuts.append ih

/-- Without the dropped bytes the results are left, in the order of the segments. What is told of a
segment is kept by the filter, since it is no dropped byte. -/
theorem filter_flatMap (segments : List (Segment c)) :
    (segments.flatMap fun s => s.result.toList ++ List.replicate s.skipped .idle).filter
      (· ≠ .idle) = segments.filterMap result := by
  induction segments with
  | nil => rfl
  | cons s segments ih =>
    rw [List.flatMap_cons, List.filter_append, List.filter_append, ih,
      Polled.filter_replicate_idle, List.append_nil]
    rcases hs : s.result with _ | o
    · rw [List.filterMap_cons_none hs]
      rfl
    · have ho : o ≠ .idle := by
        rintro rfl
        exact s.result_ne_idle hs
      rw [List.filterMap_cons_some hs, Option.toList_some,
        List.filter_cons_of_pos (by simpa using ho)]
      rfl

end Segment

/-! ## Counting -/

namespace ReaderStats

/-- Two counts together. -/
def add (s t : ReaderStats) : ReaderStats where
  frames := s.frames + t.frames
  skippedBytes := s.skippedBytes + t.skippedBytes
  headerErrors := s.headerErrors + t.headerErrors
  packetErrors := s.packetErrors + t.packetErrors
  oversized := s.oversized + t.oversized
  truncated := s.truncated + t.truncated

theorem add_assoc (s t u : ReaderStats) : (s.add t).add u = s.add (t.add u) := by
  simp only [add, Nat.add_assoc]

theorem zero_add (s : ReaderStats) : zero.add s = s := by
  simp only [add, zero, Nat.zero_add]

/-- Every dropped byte is counted once. -/
theorem foldl_count_replicate_idle (s : ReaderStats) (n : Nat) :
    (List.replicate n Polled.idle).foldl count s =
      { s with skippedBytes := s.skippedBytes + n } := by
  induction n generalizing s with
  | zero => rfl
  | succ n ih =>
    rw [List.replicate_succ, List.foldl_cons, ih, count, Nat.add_assoc, Nat.add_comm 1]

end ReaderStats

namespace Segment

variable {c : Packet.Config}

/-- What there is to count in a list of segments. -/
def tally (segments : List (Segment c)) : ReaderStats where
  frames := segments.countP (·.kind = .packet)
  skippedBytes := (segments.map skipped).sum
  headerErrors := segments.countP (·.kind = .damagedHeader)
  packetErrors := segments.countP (·.kind = .damagedBody)
  oversized := segments.countP (·.kind = .oversized)
  truncated := 0

/-- Segments are counted one by one. -/
theorem tally_cons (s : Segment c) (segments : List (Segment c)) :
    tally (s :: segments) = (tally [s]).add (tally segments) := by
  simp only [tally, ReaderStats.add, List.countP_cons, List.map_cons, List.sum_cons,
    List.countP_nil, List.map_nil, List.sum_nil, Nat.zero_add, Nat.add_zero, Nat.add_comm]

/-- A segment is counted by its kind and its dropped bytes. -/
theorem foldl_count (s : Segment c) (stats : ReaderStats) :
    (s.result.toList ++ List.replicate s.skipped Polled.idle).foldl .count stats =
      stats.add (tally [s]) := by
  rw [List.foldl_append, ReaderStats.foldl_count_replicate_idle]
  cases s <;> rfl

/-- Segments are counted one after the other. -/
theorem foldl_count_flatMap (segments : List (Segment c)) (stats : ReaderStats) :
    (segments.flatMap fun s => s.result.toList ++ List.replicate s.skipped Polled.idle).foldl
      .count stats = stats.add (tally segments) := by
  induction segments generalizing stats with
  | nil => rfl
  | cons s segments ih =>
    rw [List.flatMap_cons, List.foldl_append, s.foldl_count, ih, ReaderStats.add_assoc,
      ← tally_cons]

end Segment

/-- **Damage stays local**: of a stream that is put together from segments, however it is delivered,
a reader is told just the frame of each sound packet and the error of each damaged one, in the order
of the segments, and then that the stream has ended. It has counted just these, and as dropped just
the garbage and what stands behind damaged headers. Results and counts both follow from what the
pieces of the segments come to. -/
theorem readAll_segments (config : Packet.Config) (segments : List (Segment config))
    (d : Delivery (segments.flatMap Segment.bytes)) :
    ((Reader.make config).readAll d.input).1 =
        segments.filterMap Segment.result ++ [.failed .closed] ∧
      ((Reader.make config).readAll d.input).2.stats =
        { frames := segments.countP (·.kind = .packet)
          skippedBytes := (segments.map Segment.skipped).sum
          headerErrors := segments.countP (·.kind = .damagedHeader)
          packetErrors := segments.countP (·.kind = .damagedBody)
          oversized := segments.countP (·.kind = .oversized)
          truncated := 0 } := by
  obtain ⟨hresults, hstats⟩ := (Reader.make config).readAll_of_delivery d
  have houtcomes := Packet.Config.outcomes_of_cuts (Segment.cuts_flatMap segments)
  constructor
  · rw [hresults, Packet.Config.results, show (Reader.make config).config = config from rfl,
      houtcomes, Segment.filter_flatMap]
  · rw [hstats, show (Reader.make config).config = config from rfl, houtcomes,
      Segment.foldl_count_flatMap]
    exact ReaderStats.zero_add _

end ControllerLink
