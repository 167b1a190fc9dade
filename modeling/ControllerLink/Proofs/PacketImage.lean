/-
# Packets and their wire images

A byte string passes the checks of a header and of a packet exactly when it is
what an encoder would have written for the fields found in it.

This is the only place where the bytes of a header and of a packet are taken
apart. For each of the three layers, the checksum behind some bytes, the header,
and the packet, there are two lemmas: what was written is accepted, and what is
accepted is what would have been written:
* `Checksum.verify16_append16` and `Checksum.append16_of_verify16`;
* `Header.ofBytes?_toBytes` and `Header.take_of_ofBytes?`;
* `Packet.open?_withHeader` and `Packet.eq_withHeader_of_open?`.
A `Parcel` is a message with the proof that a given reader accepts it. Later
modules speak of parcels, and need no side condition on sizes.
-/
import ControllerLink.Packet.Codec
import ControllerLink.Proofs.ByteStrings

set_option autoImplicit false

namespace ControllerLink

/-! ## Checksums -/

namespace Checksum

theorem length_append16 (bytes : Bytes) : (append16 bytes).length = bytes.length + 2 := by
  rw [append16, List.length_append, Bytes.length_le16]

/-- Bytes with their own checksum behind them verify. -/
theorem verify16_append16 (bytes : Bytes) : verify16 (append16 bytes) = true := by
  have htake : (append16 bytes).take bytes.length = bytes := List.take_left' rfl
  have hdrop : (append16 bytes).drop bytes.length = Bytes.le16 (checksum16 bytes) :=
    List.drop_left' rfl
  simp only [verify16, length_append16, Nat.add_sub_cancel, htake, hdrop, Bytes.ofLE16_le16]
  simp

/-- Bytes that verify are those before the checksum with their own checksum behind them. -/
theorem append16_of_verify16 {bytes : Bytes} (h : verify16 bytes = true) :
    append16 (bytes.take (bytes.length - 2)) = bytes := by
  simp only [verify16, Bool.and_eq_true, decide_eq_true_eq, beq_iff_eq] at h
  obtain ⟨hlen, hsum⟩ := h
  rw [append16, hsum, Bytes.le16_ofLE16, List.take_append_drop]
  rw [List.length_drop]
  omega

end Checksum

/-! ## Headers -/

namespace Header

theorem length_toBytes (h : Header) : h.toBytes.length = size := rfl

/-- A header is read back from the front of its own bytes. -/
theorem ofBytes?_toBytes (h : Header) (rest : Bytes) : ofBytes? (h.toBytes ++ rest) = some h := by
  simp [toBytes, fields, fieldBytes, Bytes.le16, ofBytes?, Bytes.join16_le16]

/-- The bytes from which a header was read are its own bytes. -/
theorem take_of_ofBytes? {bytes : Bytes} {h : Header} (hread : ofBytes? bytes = some h) :
    bytes.take size = h.toBytes := by
  unfold ofBytes? at hread
  split at hread
  · next start id lo hi checksum rest =>
    rw [Option.some.injEq] at hread
    subst hread
    rw [toBytes, fields, fieldBytes, Bytes.le16_join16]
    rfl
  · exact absurd hread (by simp)

/-- There is a header to be read as soon as there are bytes enough for one. -/
theorem isSome_ofBytes?_iff (bytes : Bytes) : (ofBytes? bytes).isSome ↔ size ≤ bytes.length := by
  rcases bytes with _ | ⟨a, _ | ⟨b, _ | ⟨c, _ | ⟨d, _ | ⟨e, rest⟩⟩⟩⟩⟩ <;> simp [ofBytes?, size]

/-- A header that is made carries its own checksum. -/
theorem isValid_make (start id : UInt8) (length : UInt16) :
    (make start id length).isValid = true := by
  simp [isValid, make, fields]

/-- A header that passes its check is the one made of its fields. -/
theorem make_of_isValid {h : Header} (hvalid : h.isValid = true) :
    make h.start h.id h.length = h := by
  rw [isValid, beq_iff_eq, fields] at hvalid
  rw [make, hvalid]

end Header

/-! ## Packets -/

namespace Packet

theorem length_withHeader (h : Header) (payload : Bytes) :
    (withHeader h payload).length = Header.size + payload.length + Header.checksumSize := by
  rw [withHeader, Checksum.length_append16, List.length_append, Header.length_toBytes]
  rfl

/-- The packet of a header and a payload as long as the header says opens to just these. -/
theorem open?_withHeader (h : Header) (payload : Bytes) (hlen : payload.length = h.length.toNat) :
    open? h (withHeader h payload) = .ok ⟨h, payload⟩ := by
  rw [open?, withHeader, Checksum.verify16_append16, if_pos rfl, Checksum.append16,
    List.append_assoc, List.drop_left' (Header.length_toBytes h), ← hlen, List.take_left' rfl]

/-- **A packet that opens is the image of its frame**: bytes of the announced size behind the
header `h` pass the packet check only as the packet of `h` and the payload found in them. -/
theorem eq_withHeader_of_open? {h : Header} {packet : Bytes} {f : Frame}
    (hopen : open? h packet = .ok f) (hfront : packet.take Header.size = h.toBytes)
    (hlen : packet.length = h.packetSize) :
    f.header = h ∧ f.payload.length = h.length.toNat ∧ packet = withHeader h f.payload := by
  unfold open? at hopen
  split at hopen
  · next hverify =>
    rw [Except.ok.injEq] at hopen
    subst hopen
    have hbody : packet.length - 2 = Header.size + h.length.toNat := by
      rw [hlen, Header.packetSize, Header.checksumSize, Nat.add_sub_cancel]
    have hpayload : ((packet.drop Header.size).take h.length.toNat).length = h.length.toNat := by
      rw [List.length_take, List.length_drop]
      omega
    refine ⟨rfl, hpayload, ?_⟩
    rw [withHeader, ← hfront, ← List.take_add, ← hbody, Checksum.append16_of_verify16 hverify]
  · exact absurd hopen (by simp)

end Packet

/-- A message that a reader with configuration `c` accepts: its payload fits into a packet and is
not longer than the reader allows. -/
structure Parcel (c : Packet.Config) where
  id : UInt8
  payload : Bytes
  allowed : payload.length ≤ c.maxPayload
  encodable : payload.length ≤ Packet.lengthLimit

namespace Parcel

variable {c : Packet.Config}

/-- The header of a message. -/
def header (p : Parcel c) : Header := .make c.start p.id (UInt16.ofNat p.payload.length)

/-- The packet of a message. -/
def bytes (p : Parcel c) : Bytes := Packet.withHeader p.header p.payload

/-- What is read from the packet of a message. -/
def frame (p : Parcel c) : Frame := ⟨p.header, p.payload⟩

/-- The encoder writes just the packet of a message. -/
theorem encode_eq (p : Parcel c) : Packet.encode c.start p.id p.payload = .ok p.bytes := by
  rw [Packet.encode, if_pos p.encodable]
  rfl

/-- The length in the header is that of the payload, since it fits. -/
theorem toNat_length_header (p : Parcel c) : p.header.length.toNat = p.payload.length := by
  have hlimit : p.payload.length < 2 ^ 16 := Nat.lt_of_le_of_lt p.encodable (by decide)
  rw [header, Header.make, UInt16.toNat_ofNat_of_lt' hlimit]

/-- A packet begins with its header. -/
theorem take_bytes (p : Parcel c) : p.bytes.take Header.size = p.header.toBytes := by
  rw [bytes, Packet.withHeader, Checksum.append16, List.append_assoc,
    List.take_left' (Header.length_toBytes _)]

/-- The size that a header announces is that of the packet. -/
theorem packetSize_header (p : Parcel c) : p.header.packetSize = p.bytes.length := by
  rw [Header.packetSize, toNat_length_header, bytes, Packet.length_withHeader]

end Parcel

end ControllerLink
