/-
# Why a packet is refused

The causes for which a packet cannot be read or written, and their wording.
-/
import ControllerLink.Fault
import ControllerLink.Text.Hex

set_option autoImplicit false

namespace ControllerLink

open Text (hex)

/-- Why reading or writing a packet failed. -/
inductive PacketError where
  /-- The header check does not match; nothing after the header was looked at. -/
  | headerChecksum (expected actual : UInt8)
  /-- The packet check does not match; the whole packet was read. -/
  | packetChecksum (expected actual : UInt16)
  /-- The payload has not the size that its message id fixes. -/
  | malformedPayload (id : UInt8) (expected actual : Nat)
  /-- No message has this id. -/
  | unknownKind (id : UInt8)
  /-- The packet ended early. -/
  | truncated (expected received : Nat)
  /-- The payload is longer than allowed. -/
  | payloadTooLarge (size max : Nat)
  /-- The stream failed. -/
  | stream (fault : Fault)
  /-- The stream ended. -/
  | closed
deriving DecidableEq, Repr, Inhabited

namespace PacketError

/-- Whether the link itself failed, and not just one packet. -/
def isLinkFailure : PacketError → Bool
  | stream _ | closed => true
  | _ => false

/-- The wording of an error. -/
def message : PacketError → String
  | headerChecksum expected actual =>
    s!"header checksum mismatch (computed {hex 2 expected.toNat}, received {hex 2 actual.toNat})"
  | packetChecksum expected actual =>
    s!"packet checksum mismatch (computed {hex 4 expected.toNat}, received {hex 4 actual.toNat})"
  | malformedPayload id expected actual =>
    s!"malformed payload for id {hex 2 id.toNat} ({actual} bytes, expected {expected})"
  | unknownKind id => s!"unknown message id {hex 2 id.toNat}"
  | truncated expected received => s!"truncated frame ({received} of {expected} bytes)"
  | payloadTooLarge size max => s!"payload too large ({size} bytes, max {max})"
  | stream fault => s!"frame I/O error: {fault.message}"
  | closed => "connection closed"

end PacketError

end ControllerLink
