/-
# Packets

A packet is a header, a payload and a 16-bit checksum of both.  `encode` writes
one, `decode` reads the one at the front of a byte string, and
`decodeAll` reads packet after packet until the bytes end or one is refused.
-/
import ControllerLink.Packet.Error
import ControllerLink.Packet.Header

set_option autoImplicit false

namespace ControllerLink

/-- A packet that passed both checks. -/
structure Frame where
  header : Header
  payload : Bytes
deriving DecidableEq, Repr, Inhabited

namespace Frame

/-- The message id of a frame. -/
def id (f : Frame) : UInt8 := f.header.id

/-- The bytes that the frame takes on the wire. -/
def wireSize (f : Frame) : Nat := f.header.packetSize

end Frame

namespace Packet

/-- The start marker of packets from the controller. -/
def inboundStart : UInt8 := 0x5a

/-- The start marker of packets to the controller. -/
def outboundStart : UInt8 := 0xa5

/-- The longest payload accepted unless configured otherwise. -/
def defaultMaxPayload : Nat := 1024

/-- The longest payload that a header can announce. -/
def lengthLimit : Nat := 65535

/-- What one side of a link expects of packets. -/
structure Config where
  start : UInt8
  maxPayload : Nat
deriving DecidableEq, Repr, Inhabited

/-- Packets from the controller. -/
def Config.inbound : Config := ⟨inboundStart, defaultMaxPayload⟩

/-- Packets to the controller. -/
def Config.outbound : Config := ⟨outboundStart, defaultMaxPayload⟩

/-- The bytes of a packet with a given header. -/
def withHeader (h : Header) (payload : Bytes) : Bytes :=
  Checksum.append16 (h.toBytes ++ payload)

/-- The bytes of a packet, if its payload fits into one. -/
def encode (start id : UInt8) (payload : Bytes) : Except PacketError Bytes :=
  if payload.length ≤ lengthLimit then
    .ok (withHeader (.make start id (UInt16.ofNat payload.length)) payload)
  else
    .error (.payloadTooLarge payload.length lengthLimit)

/-- Write a packet behind `front`: the header, the payload, and the checksum of all that stands
behind `front` then.  `front` stays as it is when the payload does not fit into a packet. -/
def appendTo (front : Bytes) (start id : UInt8) (payload : Bytes) :
    Bytes × Except PacketError Unit :=
  if payload.length ≤ lengthLimit then
    let h := Header.make start id (UInt16.ofNat payload.length)
    let written := front ++ h.toBytes ++ payload
    (written ++ Bytes.le16 (Checksum.checksum16 (written.drop front.length)), .ok ())
  else
    (front, .error (.payloadTooLarge payload.length lengthLimit))

/-- The mismatch of a header's checksum. -/
def headerMismatch (h : Header) : PacketError :=
  .headerChecksum (Checksum.checksum8 h.fields) h.checksum

/-- The mismatch of a packet's checksum, `packet` being all its bytes. -/
def packetMismatch (packet : Bytes) : PacketError :=
  let body := packet.length - Header.checksumSize
  .packetChecksum (Checksum.checksum16 (packet.take body)) (Bytes.ofLE16 (packet.drop body))

/-- The frame in the bytes of a packet whose header is `h`, if the packet check holds. -/
def open? (h : Header) (packet : Bytes) : Except PacketError Frame :=
  if Checksum.verify16 packet then
    .ok ⟨h, (packet.drop Header.size).take h.length.toNat⟩
  else
    .error (packetMismatch packet)

/-- The packet at the front of `bytes`. -/
def decode (bytes : Bytes) : Except PacketError Frame :=
  match Header.ofBytes? bytes with
  | none => .error (.truncated Header.size bytes.length)
  | some h =>
    if !h.isValid then .error (headerMismatch h)
    else if bytes.length < h.packetSize then .error (.truncated h.packetSize bytes.length)
    else open? h (bytes.take h.packetSize)

/-- The packets that `bytes` consists of, up to the first that is refused. -/
def decodeAll (bytes : Bytes) : List Frame × Option PacketError :=
  match bytes with
  | [] => ([], none)
  | b :: bs =>
    match decode (b :: bs) with
    | .error e => ([], some e)
    | .ok f =>
      let (frames, refused) := decodeAll ((b :: bs).drop f.wireSize)
      (f :: frames, refused)
  termination_by bytes.length
  decreasing_by
    simp only [List.length_drop, List.length_cons, Frame.wireSize, Header.packetSize, Header.size]
    omega

end Packet

end ControllerLink
