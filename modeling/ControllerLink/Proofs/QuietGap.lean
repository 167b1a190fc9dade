/-
# Synchronisation after a quiet gap

Whatever a reader has met, a gap without a start marker brings it back into
step, once the gap is as long as what the longest packet has behind its start
marker: no piece that begins before the gap reaches past it, and none begins
within.  From the end of the gap on every packet is found.

The bytes before the gap fall into pieces and a rest that is the beginning of
one (`Packet.Config.exists_cuts`). That piece is completed within the gap, for
it is not longer than the longest packet, and the gap has no start marker, so
that behind the piece only dropped bytes come. What is said of packets then
follows from pieces being found one behind the other.
-/
import ControllerLink.Proofs.Resumption

set_option autoImplicit false

namespace ControllerLink

namespace Packet.Config

variable {c : Config}

/-- **A long gap ends every piece**: bytes followed by such a gap fall into pieces without rest. -/
theorem exists_cuts_append_gap {gap : Bytes} (hquiet : c.start ∉ gap)
    (hlong : c.span ≤ gap.length + 1) (bytes : Bytes) : ∃ os, Cuts c (bytes ++ gap) os := by
  -- The pieces of the bytes alone, and a rest which has no whole piece.
  obtain ⟨front, rest, rfl, hfront, hrest⟩ := c.exists_cuts bytes
  rw [List.append_assoc]
  rcases rest with _ | ⟨b, bs⟩
  · exact ⟨_, hfront.append (.of_notMem hquiet)⟩
  -- What is left of the bytes is the beginning of one more piece, and that piece ends in the gap.
  rcases hcut : c.cut (b :: bs ++ gap) with _ | ⟨o, n⟩
  · have hshort := length_lt_of_cut_eq_none hcut
    rw [List.length_append, List.length_cons] at hshort
    omega
  · obtain ⟨hn, hpiece⟩ := piece_of_cut hcut
    have hspan := hpiece.length_le_span
    rw [List.length_take, Nat.min_eq_left hn] at hspan
    have hpast : (b :: bs).length ≤ n := by
      by_contra hwithin
      -- Otherwise it would have been a piece of the bytes alone.
      have hle : n ≤ (b :: bs).length := by omega
      have hfound := cut_of_piece hpiece ((b :: bs).drop n)
      rw [List.take_append_of_le_length hle, List.take_append_drop, hrest] at hfound
      exact absurd hfound (by simp)
    -- What is behind that piece is part of the gap.
    have hbehind : c.start ∉ (b :: bs ++ gap).drop n := by
      intro hmem
      rw [List.drop_append, List.drop_of_length_le hpast, List.nil_append] at hmem
      exact hquiet (List.mem_of_mem_drop hmem)
    have htail := Cuts.cons hpiece (Cuts.of_notMem hbehind)
    rw [List.take_append_drop] at htail
    exact ⟨_, hfront.append htail⟩

end Packet.Config

/-- **Bounded resynchronisation**: let any bytes `noise` come before a gap without a start marker
that is at least six bytes longer than the longest accepted payload, and packets behind it.  However
all this is delivered, the last results before the end of the stream are the frames of just these
packets, in their order, and what is told before them is what is told of the noise and the gap. -/
theorem readAll_behind_gap (config : Packet.Config) (noise gap : Bytes)
    (packets : List (Parcel config)) (quiet : config.start ∉ gap)
    (long : min config.maxPayload Packet.lengthLimit + 6 ≤ gap.length)
    (d : Delivery (noise ++ gap ++ packets.flatMap Parcel.bytes)) :
    ((Reader.make config).readAll d.input).1 =
      config.results (noise ++ gap) ++ packets.map (fun p => .frame p.frame) ++
        [.failed .closed] := by
  have hspan : config.span ≤ gap.length + 1 := by
    rw [Packet.Config.span, Header.size, Header.checksumSize]
    omega
  obtain ⟨os, hcuts⟩ := Packet.Config.exists_cuts_append_gap quiet hspan noise
  have hpackets := Parcel.cuts_flatMap packets
  -- None of the frames is a dropped byte, so all of them are told.
  have hframes : (packets.map fun p => Polled.frame p.frame).filter (· ≠ .idle) =
      packets.map fun p => Polled.frame p.frame := by
    rw [List.filter_eq_self]
    intro o ho
    obtain ⟨p, -, rfl⟩ := List.mem_map.1 ho
    simp
  rw [((Reader.make config).readAll_of_delivery d).1]
  show config.results _ ++ _ = _
  rw [Packet.Config.results, Packet.Config.results,
    Packet.Config.outcomes_of_cuts (hcuts.append hpackets), Packet.Config.outcomes_of_cuts hcuts,
    List.filter_append, hframes]

/-- The noise is a header that announces the longest payload, and the gap is as short as it may
be. -/
theorem readAll_behind_stray_header :
    Packet.Config.inbound.start ∉ List.replicate 1030 (0 : UInt8) ∧
      min Packet.Config.inbound.maxPayload Packet.lengthLimit + 6 ≤
        (List.replicate 1030 (0 : UInt8)).length ∧
      ((Reader.make .inbound).readAll (.ofBytes ((Header.make 0x5a 0 1024).toBytes ++
          List.replicate 1030 0 ++ [Parcel.shot 54, Parcel.shot 55].flatMap Parcel.bytes))).1 =
        Packet.Config.inbound.results ((Header.make 0x5a 0 1024).toBytes ++
            List.replicate 1030 0) ++
          [.frame (Parcel.shot 54).frame, .frame (Parcel.shot 55).frame] ++ [.failed .closed] := by
  have hquiet : Packet.Config.inbound.start ∉ List.replicate 1030 (0 : UInt8) := by
    intro hmem
    exact absurd (List.eq_of_mem_replicate hmem) (by decide)
  have hlong : min Packet.Config.inbound.maxPayload Packet.lengthLimit + 6 ≤
      (List.replicate 1030 (0 : UInt8)).length := by
    rw [List.length_replicate]
    decide
  exact ⟨hquiet, hlong, readAll_behind_gap .inbound (Header.make 0x5a 0 1024).toBytes
    (List.replicate 1030 0) [Parcel.shot 54, Parcel.shot 55] hquiet hlong (.whole _)⟩

/-- A gap of one byte less is too short: these six bytes end within a piece, and only the first of
them is a start marker. -/
example : (Header.make 0x5a 0 0).toBytes.count 0x5a = 1 ∧
    (⟨0x5a, 0⟩ : Packet.Config).cut ((Header.make 0x5a 0 0).toBytes ++ [0]) = none := by
  decide +kernel

end ControllerLink
