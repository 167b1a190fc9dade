/-
# The summary of a capture adds up

Decoding a capture comes to its end after at most one read for each byte and one
more, whatever the bytes are, because every read before the last has taken a
piece.  The sink has no part in it: what is counted follows from the pieces, and
so does what the sink is told.

Two accounts of the pieces are kept beside each other.  By length: a dropped
byte takes one byte of the capture, a refused header the size of a header, and a
packet at least the size of an empty one, so that the counters together cannot
ask for more bytes than there are.  By kind: every piece raises just one
counter, and a frame is a record, an unknown packet or a malformed one.
-/
import ControllerLink.Proofs.CaptureAgreement
import ControllerLink.Proofs.Conservation
import ControllerLink.Proofs.NoiseAndFailure

set_option autoImplicit false

namespace ControllerLink

/-! ## Pieces -/

/-- There are no more pieces than bytes. -/
theorem Cuts.length_le {c : Packet.Config} {bytes : Bytes} {os : List Polled}
    (h : Cuts c bytes os) : os.length ≤ bytes.length := by
  induction h with
  | nil => exact Nat.le_refl 0
  | cons hpiece hrest ih =>
    have hpos := hpiece.length_pos
    rw [List.length_append, List.length_cons]
    omega

/-- The fewest bytes that can have come to these counts: every header has five bytes, and every
packet seven at least. -/
def ReaderStats.leastBytes (s : ReaderStats) : Nat :=
  s.bytes + 7 * (s.frames + s.packetErrors)

/-- A piece has the bytes that it is counted for, and no caller gave it up. -/
theorem Piece.leastBytes_count {c : Packet.Config} {piece : Bytes} {o : Polled}
    (h : Piece c piece o) (s : ReaderStats) :
    (s.count o).leastBytes ≤ s.leastBytes + piece.length ∧
      (s.count o).truncated = s.truncated := by
  unfold ReaderStats.leastBytes ReaderStats.bytes
  cases h with
  | dropped hb =>
    refine ⟨?_, rfl⟩
    simp only [ReaderStats.count, List.length_singleton]
    omega
  | damaged hs hv =>
    refine ⟨?_, rfl⟩
    simp only [ReaderStats.count, Packet.headerMismatch, Header.length_toBytes, Header.size]
    omega
  | oversized hs hv hbig =>
    refine ⟨?_, rfl⟩
    simp only [ReaderStats.count, Header.length_toBytes, Header.size]
    omega
  | @packet h _ hs hv hfit hfront hlen =>
    rw [hlen, Header.packetSize, Header.size, Header.checksumSize]
    -- A frame and a failed packet check have the same bytes and different counters.
    rcases Packet.opened_cases h piece with ⟨f, -, ho⟩ | ⟨-, ho⟩
    · rw [ho]
      refine ⟨?_, rfl⟩
      simp only [ReaderStats.count]
      omega
    · rw [ho]
      refine ⟨?_, rfl⟩
      simp only [ReaderStats.count, Packet.packetMismatch]
      omega

/-- All pieces together have the bytes that they are counted for, and none was given up. -/
theorem Cuts.leastBytes_foldl {c : Packet.Config} {bytes : Bytes} {os : List Polled}
    (h : Cuts c bytes os) (s : ReaderStats) :
    (os.foldl .count s).leastBytes ≤ s.leastBytes + bytes.length ∧
      (os.foldl .count s).truncated = s.truncated := by
  induction h generalizing s with
  | nil => exact ⟨Nat.le_refl _, rfl⟩
  | @cons piece rest o os hpiece hrest ih =>
    obtain ⟨hbytes, htruncated⟩ := hpiece.leastBytes_count s
    obtain ⟨hbytes', htruncated'⟩ := ih (s.count o)
    rw [List.foldl_cons, List.length_append]
    exact ⟨by omega, htruncated'.trans htruncated⟩

/-! ## Frames -/

namespace Polled

/-- A frame is told to the sink, or has an unknown id, or a malformed payload, and nothing but a
frame is. -/
theorem frames_count (s : ReaderStats) (o : Polled) :
    (s.count o).frames = s.frames + o.record?.toList.length +
      (if o.received.isUnknown then 1 else 0) + if o.isMalformed then 1 else 0 := by
  cases o with
  | idle | stalled => rfl
  | failed e =>
    have hreceived : (Polled.failed e).received.isUnknown = false := by
      rw [received]
      split <;> rfl
    rw [hreceived]
    cases e <;> rfl
  | frame f =>
    rw [isMalformed]
    rcases frame_cases f with ⟨t, hreceived, hrecord, -⟩ |
      ⟨hrecord, ⟨hreceived, -⟩ | ⟨id, expected, actual, hreceived, -⟩⟩
    · rw [hreceived, hrecord]
      rfl
    · rw [hreceived, hrecord]
      rfl
    · rw [hreceived, hrecord]
      rfl

/-- Of all frames, each was told of, unknown or malformed. -/
theorem frames_foldl (os : List Polled) (s : ReaderStats) :
    (os.foldl .count s).frames = s.frames + (os.filterMap record?).length +
      (os.map received).countP ReceiveOutcome.isUnknown + os.countP isMalformed := by
  induction os generalizing s with
  | nil => rfl
  | cons o os ih =>
    have hstep := frames_count s o
    rw [List.foldl_cons, ih, hstep, List.map_cons, List.countP_cons, List.countP_cons]
    cases hrecord : o.record? with
    | none =>
      rw [List.filterMap_cons_none hrecord, Option.toList_none, List.length_nil]
      omega
    | some t =>
      rw [List.filterMap_cons_some hrecord, Option.toList_some, List.length_singleton,
        List.length_cons]
      omega

end Polled

/-! ## The summary -/

/-- **Decoding ends and its summary adds up.**  Any capture has one summary and one row of records,
those of what comes of its pieces, whatever the sink is: decoding comes back with this summary and a
sink that was told of these records in turn.  It is the loop that only the end of the capture has
ended, after at most one read more than the capture has bytes.  Every packet in the summary was told
of, has an unknown id or a malformed payload; none was given up; and the counts stand for no more
bytes than there are. -/
theorem capture_adds_up (capture : Bytes) :
    let summary := Capture.summaryOf capture
    let told := (Packet.Config.inbound.outcomes capture).filterMap Polled.record?
    (∀ {σ : Type} (tell : σ → Telemetry → σ) (sink : σ),
      Capture.decode tell sink capture = .ok (summary, told.foldl tell sink) ∧
        (∃ last reads, Capture.decodeCounted tell (.start sink capture) = (.ok last, reads) ∧
          Capture.Loops tell (.start sink capture) (.ok last) reads ∧
          reads ≤ capture.length + 1) ∧
        (Capture.decodeCounted tell (.start sink capture)).1 =
          Capture.decodeFrom tell (.start sink capture)) ∧
      summary.frames = told.length + summary.unknown + summary.malformed ∧
      summary.truncated = 0 ∧
      summary.skippedBytes + 5 * (summary.headerErrors + summary.oversized) +
        7 * (summary.frames + summary.packetErrors) ≤ capture.length := by
  obtain ⟨front, rest, rfl, hcuts, -⟩ := Packet.Config.inbound.exists_cuts capture
  dsimp only
  refine ⟨fun tell sink => ⟨Capture.decode_eq tell sink (front ++ rest), ?_, rfl⟩, ?_⟩
  · have hresults : (Packet.Config.inbound.results (front ++ rest)).length ≤ front.length :=
      Nat.le_trans (List.length_filter_le _ _) hcuts.length_le
    obtain ⟨last, hlast, hloops, -⟩ := Capture.loops_decodeCounted tell sink (front ++ rest)
    refine ⟨last, _, hlast, hloops, ?_⟩
    rw [List.length_append]
    omega
  · obtain ⟨hbytes, htruncated⟩ := hcuts.leastBytes_foldl .zero
    refine ⟨?_, htruncated, ?_⟩
    · have hframes := Polled.frames_foldl (Packet.Config.inbound.outcomes (front ++ rest)) .zero
      rwa [show ReaderStats.zero.frames = 0 from rfl, Nat.zero_add] at hframes
    · rw [show ReaderStats.zero.leastBytes = 0 from rfl, Nat.zero_add] at hbytes
      rw [List.length_append]
      exact Nat.le_add_right_of_le hbytes

end ControllerLink
