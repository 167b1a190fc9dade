/-
# Damaged packets

A packet with some of its bits flipped is refused, by the check that covers the first of them.  Up
to three bits may lie anywhere in a packet that is not too long, and any number of them within as
many places as the register of the check has bits, in a packet of any length.  The two checks share
the work: a length that is damaged decides which bytes are a packet at all, so that it must not get
past the first check.

A flip in the header changes the residue of the header, whatever lies behind it,
and the decoder stops there.  If all flips lie behind the header, this is read
as it was written, the size of the packet is the one that was sent, and the
second check sees every flip.  In both cases the residue is the syndrome of the
flips that the check covers, which is not zero; only the reason for that differs
between few flips and bursts.
-/
import ControllerLink.Proofs.BitFlips
import ControllerLink.Proofs.PacketCodec

set_option autoImplicit false

namespace ControllerLink

/-- A header stands up to its check exactly if its bytes carry their checksum. -/
theorem Header.verify8_toBytes (h : Header) : Checksum.verify8 h.toBytes = h.isValid := by
  rw [Checksum.verify8, toBytes, List.getLast?_concat, isValid]
  dsimp only
  rw [List.dropLast_concat]

namespace Packet

/-! ## Damage and the two checks -/

/-- Bytes whose first five do not carry their checksum are refused for that. -/
theorem decode_of_damaged_header {src : Bytes} (hlen : Header.size ≤ src.length)
    (hdamaged : Checksum.verify8 (src.take Header.size) = false) :
    ∃ expected actual, decode src = .error (.headerChecksum expected actual) := by
  obtain ⟨h, hread⟩ := Option.isSome_iff_exists.1 ((Header.isSome_ofBytes?_iff src).2 hlen)
  rw [Header.take_of_ofBytes? hread, Header.verify8_toBytes] at hdamaged
  have hrefused : decode src = .error (headerMismatch h) := by
    rw [decode, hread]
    dsimp only
    rw [hdamaged, Bool.not_false, if_pos rfl]
  exact ⟨_, _, hrefused⟩

/-- Bytes of the size that their sound header announces are refused for their own checksum. -/
theorem decode_of_damaged_body {src : Bytes} {h : Header} (hvalid : h.isValid = true)
    (hfront : src.take Header.size = h.toBytes) (hlen : src.length = h.packetSize)
    (hdamaged : Checksum.verify16 src = false) :
    ∃ expected actual, decode src = .error (.packetChecksum expected actual) := by
  have hread : Header.ofBytes? src = some h := by
    rw [← List.take_append_drop Header.size src, hfront, Header.ofBytes?_toBytes]
  have hrefused : decode src = .error (packetMismatch src) := by
    rw [decode_of_header hvalid hread (Nat.le_of_eq hlen.symm),
      List.take_of_length_le (Nat.le_of_eq hlen), open?, hdamaged, if_neg (by simp)]
  exact ⟨_, _, hrefused⟩

namespace Message

variable {m : Message} {flips : List Nat}

theorem size_le_length (m : Message) : Header.size ≤ m.bytes.length := by
  rw [← m.wireSize_frame, Frame.wireSize, Header.packetSize]
  omega

/-- Flipped bits of the header that do not cancel are noticed by the first check, whatever else is
flipped. As it was sent the header leaves no residue, so what is left is the share of the flips. -/
theorem decode_of_flipped_header
    (hflips : Checksum.header.syndrome (8 * Header.size)
      (flips.filter (· < 8 * Header.size)) ≠ 0#8) :
    ∃ expected actual,
      decode (m.bytes.flipAll flips) = .error (.headerChecksum expected actual) := by
  have hlen : Header.size ≤ (m.bytes.flipAll flips).length := by
    rw [Bytes.length_flipAll]
    exact m.size_le_length
  refine decode_of_damaged_header hlen ?_
  have hfront : m.bytes.take Header.size = m.parcel.header.toBytes := m.parcel.take_bytes
  have hsound : Checksum.header.compute m.parcel.header.toBytes = 0#8 := by
    refine ((Checksum.verify8_iff _).1 ?_).2
    rw [Header.verify8_toBytes]
    exact m.isValid_frame
  have hdamage := Checksum.header.run_flipAll (Nat.le_refl 8) Checksum.header.start
    m.parcel.header.toBytes (flips.filter (· < 8 * Header.size)) (by simp [Header.length_toBytes])
  rw [Bytes.take_flipAll, hfront, Bool.eq_false_iff, Ne, Checksum.verify8_iff, Crc.compute, hdamage,
    ← Crc.compute, hsound, Header.length_toBytes, BitVec.zero_xor]
  exact fun hverify => hflips hverify.2

/-- Flipped bits behind the header that do not cancel are noticed by the second check. No bit of the
header is flipped, so that the same bytes are taken for the packet as before. -/
theorem decode_of_flipped_body (hbehind : ∀ i ∈ flips, 8 * Header.size ≤ i)
    (hinside : ∀ i ∈ flips, i < 8 * m.bytes.length)
    (hflips : Checksum.packet.syndrome (8 * m.bytes.length) flips ≠ 0#16) :
    ∃ expected actual,
      decode (m.bytes.flipAll flips) = .error (.packetChecksum expected actual) := by
  have hnone : flips.filter (· < 8 * Header.size) = [] := by
    rw [List.filter_eq_nil_iff]
    intro i hi
    simpa using hbehind i hi
  have hfront : (m.bytes.flipAll flips).take Header.size = m.parcel.header.toBytes := by
    rw [Bytes.take_flipAll, hnone]
    exact m.parcel.take_bytes
  have hlen : (m.bytes.flipAll flips).length = m.parcel.header.packetSize := by
    rw [Bytes.length_flipAll]
    exact m.parcel.packetSize_header.symm
  refine decode_of_damaged_body m.isValid_frame hfront hlen ?_
  -- The same for the whole packet and its own check.
  have hsound : Checksum.packet.compute m.bytes = 0#16 :=
    ((Checksum.verify16_iff _).1 (Checksum.verify16_append16 _)).2
  have hdamage :=
    Checksum.packet.run_flipAll (by decide) Checksum.packet.start m.bytes flips hinside
  rw [Bool.eq_false_iff, Ne, Checksum.verify16_iff, Crc.compute, hdamage, ← Crc.compute, hsound,
    BitVec.zero_xor]
  exact fun hverify => hflips hverify.2

end Message

/-! ## Few flipped bits -/

/-- **Hamming distance 4.**  Every payload of up to 1024 bytes is written as a packet that is
refused when one, two or three of its bits are flipped, wherever they are: for the header if one of
them lies in it, and otherwise for the whole packet. -/
theorem decode_of_few_flips (start id : UInt8) {payload : Bytes}
    (hlen : payload.length ≤ defaultMaxPayload) :
    ∃ packet : Bytes, (∀ front, appendTo front start id payload = (front ++ packet, .ok ())) ∧
      ∀ flips : List Nat, flips.Nodup → flips ≠ [] → flips.length ≤ 3 →
        (∀ i ∈ flips, i < 8 * packet.length) →
        ((∃ i ∈ flips, i < 8 * Header.size) → ∃ expected actual,
          decode (packet.flipAll flips) = .error (.headerChecksum expected actual)) ∧
        ((∀ i ∈ flips, 8 * Header.size ≤ i) → ∃ expected actual,
          decode (packet.flipAll flips) = .error (.packetChecksum expected actual)) := by
  have hfits : payload.length ≤ lengthLimit := Nat.le_trans hlen (by decide)
  obtain ⟨m, rfl, rfl, rfl⟩ : ∃ m : Message, m.start = start ∧ m.id = id ∧ m.payload = payload :=
    ⟨⟨start, id, payload, hfits⟩, rfl, rfl, rfl⟩
  refine ⟨m.bytes, fun front => appendTo_message front m, fun flips hdistinct hsome hfew hinside =>
    ⟨fun hheader => ?_, fun hbehind => ?_⟩⟩
  -- Only the flips in the header are seen by its check; they are few as well, and there is one.
  · obtain ⟨i, hi, hlow⟩ := hheader
    have hfirst : i ∈ flips.filter (· < 8 * Header.size) :=
      List.mem_filter.2 ⟨hi, decide_eq_true hlow⟩
    apply Message.decode_of_flipped_header
    refine Crc.syndrome_ne_zero_of_length_le Checksum.notices_header (by decide)
      (hdistinct.filter _) (List.ne_nil_of_mem hfirst) ?_ (by simp)
    exact Nat.le_trans (List.length_filter_le _ _) hfew
  · have hsize : m.bytes.length = Header.size + m.payload.length + Header.checksumSize :=
      length_withHeader _ _
    -- With 1024 bytes of payload the packet has 8248 bits, well within the period.
    have hperiod : 8 * m.bytes.length ≤ 32767 := by
      rw [defaultMaxPayload] at hlen
      rw [hsize, Header.size, Header.checksumSize]
      omega
    exact Message.decode_of_flipped_body hbehind hinside
      (Crc.syndrome_ne_zero_of_length_le Checksum.notices_packet hperiod hdistinct hsome hfew
        hinside)

/-- The report of a shot as a packet. -/
def shotPacket : Bytes :=
  [0x5a, 0x0d, 0x05, 0x00, 0xc7, 0x37, 0x00, 0x00, 0x00, 0x01, 0x5c, 0x5a]

/-- The packet of a shot is the one that is written down here. -/
theorem eq_shotPacket {packet : Bytes}
    (h : ∀ front, appendTo front 0x5a 0x0d [0x37, 0x00, 0x00, 0x00, 0x01] =
      (front ++ packet, .ok ())) : packet = shotPacket := by
  have hshot : appendTo [] 0x5a 0x0d [0x37, 0x00, 0x00, 0x00, 0x01] = (shotPacket, .ok ()) := by
    decide +kernel
  exact congrArg Prod.fst ((h []).symm.trans hshot)

/-- Three flips, of which one lies in the header, and three that do not. -/
theorem decode_of_few_flips_shot :
    [0x37, 0x00, 0x00, 0x00, (0x01 : UInt8)].length ≤ defaultMaxPayload ∧
      (∃ expected actual, decode (shotPacket.flipAll [16, 71, 95]) =
        .error (.headerChecksum expected actual)) ∧
      ∃ expected actual, decode (shotPacket.flipAll [40, 71, 95]) =
        .error (.packetChecksum expected actual) := by
  obtain ⟨packet, hpacket, hrefused⟩ :=
    @decode_of_few_flips 0x5a 0x0d [0x37, 0x00, 0x00, 0x00, 0x01] (by decide)
  obtain rfl := eq_shotPacket hpacket
  exact ⟨by decide,
    (hrefused [16, 71, 95] (by decide) (by decide) (by decide) (by decide)).1 (by decide),
    (hrefused [40, 71, 95] (by decide) (by decide) (by decide) (by decide)).2 (by decide)⟩

/-! ## Bursts -/

/-- **Bursts are noticed.**  Every payload that fits is written as a packet that is refused when
some of its bits are flipped within eight places of the header, for the header, or within sixteen
places behind it, for the whole packet: as many places as the check has bits, wherever they begin,
and whichever of the bits there are flipped. -/
theorem decode_of_burst (start id : UInt8) {payload : Bytes}
    (hlen : payload.length ≤ lengthLimit) :
    ∃ packet : Bytes, (∀ front, appendTo front start id payload = (front ++ packet, .ok ())) ∧
      (∀ (flips : List Nat) (first : Nat), flips.Nodup → flips ≠ [] →
        (∀ i ∈ flips, first ≤ i ∧ i < first + 8 ∧ i < 8 * Header.size) →
        ∃ expected actual,
          decode (packet.flipAll flips) = .error (.headerChecksum expected actual)) ∧
      ∀ (flips : List Nat) (first : Nat), flips.Nodup → flips ≠ [] →
        (∀ i ∈ flips, 8 * Header.size ≤ i ∧ first ≤ i ∧ i < first + 16 ∧ i < 8 * packet.length) →
        ∃ expected actual,
          decode (packet.flipAll flips) = .error (.packetChecksum expected actual) := by
  obtain ⟨m, rfl, rfl, rfl⟩ : ∃ m : Message, m.start = start ∧ m.id = id ∧ m.payload = payload :=
    ⟨⟨start, id, payload, hlen⟩, rfl, rfl, rfl⟩
  refine ⟨m.bytes, fun front => appendTo_message front m, ?_, ?_⟩
  · intro flips first hdistinct hsome hwindow
    apply Message.decode_of_flipped_header
    -- All flips of the burst lie in the header.
    have hall : flips.filter (· < 8 * Header.size) = flips := by
      rw [List.filter_eq_self]
      intro i hi
      exact decide_eq_true (hwindow i hi).2.2
    rw [hall]
    exact Crc.syndrome_ne_zero_of_window Checksum.msb_header hdistinct hsome hwindow
  · intro flips first hdistinct hsome hwindow
    apply Message.decode_of_flipped_body
    · exact fun i hi => (hwindow i hi).1
    · exact fun i hi => (hwindow i hi).2.2.2
    · exact Crc.syndrome_ne_zero_of_window Checksum.msb_packet hdistinct hsome
        fun i hi => (hwindow i hi).2

/-- Bits on both sides of the border between the payload and its checksum. -/
theorem decode_of_burst_shot :
    [0x37, 0x00, 0x00, 0x00, (0x01 : UInt8)].length ≤ lengthLimit ∧
      (∃ expected actual, decode (shotPacket.flipAll [20, 21, 27]) =
        .error (.headerChecksum expected actual)) ∧
      ∃ expected actual, decode (shotPacket.flipAll [73, 78, 80, 88]) =
        .error (.packetChecksum expected actual) := by
  obtain ⟨packet, hpacket, hheader, hbody⟩ :=
    @decode_of_burst 0x5a 0x0d [0x37, 0x00, 0x00, 0x00, 0x01] (by decide)
  obtain rfl := eq_shotPacket hpacket
  exact ⟨by decide, hheader [20, 21, 27] 20 (by decide) (by decide) (by decide),
    hbody [73, 78, 80, 88] 73 (by decide) (by decide) (by decide)⟩

end Packet

end ControllerLink
