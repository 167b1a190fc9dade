/-
# The packet codec

Writing a packet and reading the one at the front of a byte string undo each
other.  A packet is read back whatever stands behind it and was written
whatever stood before it, and only the images of messages are read at all, so
that packets written one behind the other are read back one by one.

The direction that needs an argument is the second: a frame that was read comes
from the bytes that its fields would be written as (`Packet.decode_eq_ok_iff`).
The header is determined by its bytes and its checksum, the payload by the
length in the header, and the checksum behind it by both. A message is bounded
by what a length of two bytes can announce, and what is beyond that bound is
refused before anything is written.
-/
import ControllerLink.Proofs.PacketImage

set_option autoImplicit false

namespace ControllerLink

namespace Packet

/-- What can be written as one packet. -/
structure Message where
  start : UInt8
  id : UInt8
  payload : Bytes
  fits : payload.length ≤ lengthLimit

namespace Message

/-- The message as one that is accepted by a reader of all packets with its start marker. -/
def parcel (m : Message) : Parcel ⟨m.start, lengthLimit⟩ := ⟨m.id, m.payload, m.fits, m.fits⟩

/-- The packet of a message. -/
def bytes (m : Message) : Bytes := m.parcel.bytes

/-- What is read from the packet of a message. -/
def frame (m : Message) : Frame := m.parcel.frame

theorem isValid_frame (m : Message) : m.frame.header.isValid = true :=
  Header.isValid_make _ _ _

theorem wireSize_frame (m : Message) : m.frame.wireSize = m.bytes.length :=
  m.parcel.packetSize_header

/-- The message that a frame with a sound header comes from. A sound header is the one that is made
of its own fields. -/
theorem exists_frame_eq {f : Frame} (hvalid : f.header.isValid = true)
    (hlen : f.payload.length = f.header.length.toNat) : ∃ m : Message, m.frame = f := by
  have hfits : f.payload.length ≤ lengthLimit := by
    rw [hlen]
    exact Nat.le_of_lt_succ f.header.length.toNat_lt
  have hmake : Header.make f.header.start f.header.id (UInt16.ofNat f.payload.length) =
      f.header := by
    rw [hlen, UInt16.ofNat_toNat, Header.make_of_isValid hvalid]
  exact ⟨⟨f.header.start, f.header.id, f.payload, hfits⟩,
    congrArg (fun h => (⟨h, f.payload⟩ : Frame)) hmake⟩

end Message

/-! ## Writing -/

/-- Writing adds just the packet of the message to what is already there. The checksum is that of
the new bytes, although it is computed in the whole buffer. -/
theorem appendTo_message (front : Bytes) (m : Message) :
    appendTo front m.start m.id m.payload = (front ++ m.bytes, .ok ()) := by
  have hnew : (front ++ m.parcel.header.toBytes ++ m.payload).drop front.length =
      m.parcel.header.toBytes ++ m.payload := by
    rw [List.append_assoc, List.drop_left' rfl]
  have hbytes : front ++ m.bytes = front ++ m.parcel.header.toBytes ++ m.payload ++
      Bytes.le16 (Checksum.checksum16
        ((front ++ m.parcel.header.toBytes ++ m.payload).drop front.length)) := by
    rw [hnew, Message.bytes, Parcel.bytes, withHeader, Checksum.append16, List.append_assoc front,
      List.append_assoc front]
    rfl
  rw [hbytes, appendTo, if_pos m.fits]
  rfl

/-- What does not fit into a packet is not written. -/
theorem appendTo_of_lt (front : Bytes) (start id : UInt8) {payload : Bytes}
    (hlong : lengthLimit < payload.length) :
    appendTo front start id payload =
      (front, .error (.payloadTooLarge payload.length lengthLimit)) := by
  rw [appendTo, if_neg (Nat.not_le.2 hlong)]

/-! ## Reading -/

/-- Bytes that begin with a sound header and are long enough are judged by the packet check. -/
theorem decode_of_header {h : Header} (hvalid : h.isValid = true) {src : Bytes}
    (hread : Header.ofBytes? src = some h) (hlen : h.packetSize ≤ src.length) :
    decode src = open? h (src.take h.packetSize) := by
  rw [decode, hread]
  dsimp only
  rw [hvalid, if_neg (by simp), if_neg (Nat.not_lt.2 hlen)]

/-- What is read has a sound header, and there are bytes enough for all that it announces. -/
theorem header_of_decode {src : Bytes} {f : Frame} (hdecode : decode src = .ok f) :
    ∃ h, Header.ofBytes? src = some h ∧ h.isValid = true ∧ h.packetSize ≤ src.length := by
  unfold decode at hdecode
  split at hdecode
  · exact absurd hdecode (by simp)
  next h hread =>
  split at hdecode
  · exact absurd hdecode (by simp)
  next hvalid =>
  split at hdecode
  · exact absurd hdecode (by simp)
  next hlen => exact ⟨h, hread, by simpa using hvalid, Nat.not_lt.1 hlen⟩

/-- A packet is read back, whatever stands behind it. -/
theorem decode_message_append (m : Message) (rest : Bytes) :
    decode (m.bytes ++ rest) = .ok m.frame := by
  have hsize : m.frame.header.packetSize = m.bytes.length := m.wireSize_frame
  have hread : Header.ofBytes? (m.bytes ++ rest) = some m.frame.header := by
    rw [Message.bytes, Parcel.bytes, withHeader, Checksum.append16, List.append_assoc,
      List.append_assoc]
    exact Header.ofBytes?_toBytes _ _
  have hlen : m.frame.header.packetSize ≤ (m.bytes ++ rest).length := by
    rw [hsize, List.length_append]
    exact Nat.le_add_right _ _
  rw [decode_of_header m.isValid_frame hread hlen, List.take_left' hsize.symm]
  exact open?_withHeader _ _ m.parcel.toNat_length_header.symm

/-- **Reading accepts exactly what writing produces**: a frame is read from bytes that begin with
the packet of the message in it, and from no others. -/
theorem decode_eq_ok_iff (src : Bytes) (f : Frame) :
    decode src = .ok f ↔ ∃ m : Message, m.frame = f ∧ m.bytes <+: src := by
  constructor
  · intro hdecode
    obtain ⟨h, hread, hvalid, hlen⟩ := header_of_decode hdecode
    rw [decode_of_header hvalid hread hlen] at hdecode
    -- The bytes of the packet begin with those of its header, and there are as many as announced.
    have hsize : Header.size ≤ h.packetSize := by
      rw [Header.packetSize]
      omega
    have hfront : (src.take h.packetSize).take Header.size = h.toBytes := by
      rw [List.take_take, Nat.min_eq_left hsize, Header.take_of_ofBytes? hread]
    have htake : (src.take h.packetSize).length = h.packetSize := by
      rw [List.length_take, Nat.min_eq_left hlen]
    -- So the packet check was passed by the image of the frame.
    obtain ⟨rfl, hpayload, himage⟩ := eq_withHeader_of_open? hdecode hfront htake
    obtain ⟨m, rfl⟩ := Message.exists_frame_eq hvalid hpayload
    refine ⟨m, rfl, ?_⟩
    have hbytes : m.bytes = src.take m.frame.header.packetSize := himage.symm
    rw [hbytes]
    exact List.take_prefix _ _
  · rintro ⟨m, rfl, rest, rfl⟩
    exact decode_message_append m rest

/-- What is read comes first, and then what is read behind it. -/
theorem decodeAll_of_decode {src : Bytes} {f : Frame} (hdecode : decode src = .ok f) :
    decodeAll src = (f :: (decodeAll (src.drop f.wireSize)).1,
      (decodeAll (src.drop f.wireSize)).2) := by
  rcases src with _ | ⟨b, bs⟩
  · exact absurd hdecode (by simp [decode, Header.ofBytes?])
  · rw [decodeAll, hdecode]

/-- Packets one behind the other are read back one by one. -/
theorem decodeAll_messages (messages : List Message) :
    decodeAll (messages.flatMap Message.bytes) = (messages.map Message.frame, none) := by
  induction messages with
  | nil => rw [List.flatMap_nil, decodeAll, List.map_nil]
  | cons m messages ih =>
    rw [List.flatMap_cons, decodeAll_of_decode (decode_message_append m _),
      List.drop_left' m.wireSize_frame.symm, ih, List.map_cons]

/-- **The packet codec is a bijection onto its image.**  Every message is written as a packet that
does not depend on what stands before it, and whatever stands behind it, the packet is read back as
a frame with the start marker, the id and the payload of the message, a sound header and the size
of the packet.  Every frame that is read comes from bytes that begin with just what is written for
it.  Packets one behind the other are read back one by one, to the last.  A payload that no header
can announce is refused and nothing is written. -/
theorem decode_inverts_appendTo :
    (∀ m : Message, (∀ front, appendTo front m.start m.id m.payload = (front ++ m.bytes, .ok ())) ∧
        ∀ rest, ∃ f, decode (m.bytes ++ rest) = .ok f ∧ f.header.start = m.start ∧ f.id = m.id ∧
          f.payload = m.payload ∧ f.wireSize = m.bytes.length ∧ f.header.isValid = true) ∧
      (∀ src f, decode src = .ok f → f.wireSize ≤ src.length ∧
        ∀ front, appendTo front f.header.start f.id f.payload =
          (front ++ src.take f.wireSize, .ok ())) ∧
      (∀ messages : List Message, ∃ frames,
        decodeAll (messages.flatMap Message.bytes) = (frames, none) ∧
          frames.map (fun f => (f.header.start, f.id, f.payload)) =
            messages.map fun m => (m.start, m.id, m.payload)) ∧
      ∀ front start id payload, lengthLimit < payload.length →
        appendTo front start id payload =
          (front, .error (.payloadTooLarge payload.length lengthLimit)) := by
  refine ⟨fun m => ⟨fun front => appendTo_message front m, fun rest => ?_⟩, ?_, ?_, ?_⟩
  · exact ⟨m.frame, decode_message_append m rest, rfl, rfl, rfl, m.wireSize_frame,
      m.isValid_frame⟩
  · intro src f hdecode
    obtain ⟨m, rfl, rest, rfl⟩ := (decode_eq_ok_iff src f).1 hdecode
    rw [m.wireSize_frame, List.take_left' rfl, List.length_append]
    exact ⟨Nat.le_add_right _ _, fun front => appendTo_message front m⟩
  · intro messages
    refine ⟨messages.map Message.frame, decodeAll_messages messages, ?_⟩
    rw [List.map_map]
    rfl
  · intro front start id payload hlong
    exact appendTo_of_lt front start id hlong

/-- The report of a shot, with one more byte behind it. -/
def shotBytes : Bytes :=
  [0x5a, 0x0d, 0x05, 0x00, 0xc7, 0x37, 0x00, 0x00, 0x00, 0x01, 0x5c, 0x5a, 0xff]

/-- A shot is written behind a byte that was there, and a payload that is too long is refused and
leaves that byte alone. -/
theorem decode_inverts_appendTo_shot :
    (decode shotBytes = .ok ⟨⟨0x5a, 0x0d, 5, 0xc7⟩, [0x37, 0x00, 0x00, 0x00, 0x01]⟩ ∧
        lengthLimit < (List.replicate 65536 (0 : UInt8)).length) ∧
      appendTo [0x11] 0x5a 0x0d [0x37, 0x00, 0x00, 0x00, 0x01] =
        (0x11 :: shotBytes.take 12, .ok ()) ∧
      appendTo [0x11] 0x5a 0x0d (List.replicate 65536 0) =
        ([0x11], .error (.payloadTooLarge 65536 lengthLimit)) := by
  have hdecode : decode shotBytes =
      .ok ⟨⟨0x5a, 0x0d, 5, 0xc7⟩, [0x37, 0x00, 0x00, 0x00, 0x01]⟩ := by
    decide +kernel
  have hlong : lengthLimit < (List.replicate 65536 (0 : UInt8)).length := by
    rw [List.length_replicate]
    decide
  obtain ⟨-, himage, -, hrefused⟩ := decode_inverts_appendTo
  refine ⟨⟨hdecode, hlong⟩, (himage shotBytes _ hdecode).2 [0x11], ?_⟩
  have h := hrefused [0x11] 0x5a 0x0d _ hlong
  rwa [List.length_replicate] at h

end Packet

end ControllerLink
