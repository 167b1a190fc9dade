/-
# What is sent

A writer keeps the header of its last packet, and that header is always the one
that would be made again.  So what it sends is the packet that the encoder
writes, whatever it has sent before.

`Writer.Serves` is the invariant: the header that is kept passes its check, and
a header that does is determined by its start marker, its id and its length.
Every record is short enough for every reader of its direction, so that it makes
a parcel (`Telemetry.parcel`, `RobotCommand.parcel`); what was said of parcels
holds for all that is sent.
-/
import ControllerLink.Stream.Writer
import ControllerLink.Proofs.PacketImage
import ControllerLink.Proofs.RecordImage

set_option autoImplicit false

namespace ControllerLink

/-! ## Writers -/

/-- A writer that writes packets as a reader with configuration `c` expects them: the header that
it keeps, if any, passes its check. -/
structure Writer.Serves (w : Writer) (c : Packet.Config) : Prop where
  config : w.config = c
  sound : ∀ h, w.lastHeader = some h → h.isValid = true

namespace Writer

variable {w : Writer} {c : Packet.Config}

theorem serves_make (c : Packet.Config) : (make c).Serves c where
  config := rfl
  sound := by
    intro h hlast
    exact absurd hlast (by simp [make])

/-- A header that is used again is the one that would be made. -/
theorem headerFor_eq (hw : w.Serves c) (id : UInt8) (length : UInt16) :
    w.headerFor id length = .make c.start id length := by
  unfold headerFor
  rw [hw.config]
  split
  · next h hlast =>
    split
    · next hfits =>
      obtain ⟨rfl, rfl, hstart⟩ := hfits
      rw [← hstart, Header.make_of_isValid (hw.sound h hlast)]
    · rfl
  · rfl

/-- A writer puts together just the packet of a message, whatever its buffer held before. -/
theorem assemble_parcel (hw : w.Serves c) (p : Parcel c) :
    ∃ w' : Writer, w'.Serves c ∧ w'.buffer = p.bytes ∧ w.assemble p.id p.payload = .ok w' := by
  have hallowed : ¬ w.config.maxPayload < p.payload.length := by
    rw [hw.config]
    exact Nat.not_lt.2 p.allowed
  have hencodable : ¬ Packet.lengthLimit < p.payload.length := Nat.not_lt.2 p.encodable
  refine ⟨{ w with buffer := p.bytes, lastHeader := some p.header }, ⟨hw.config, ?_⟩, rfl, ?_⟩
  · intro h hlast
    rw [← Option.some.inj hlast]
    exact Header.isValid_make _ _ _
  · unfold assemble
    rw [if_neg hallowed, if_neg hencodable, headerFor_eq hw, Bytes.resize_zero]
    rfl

end Writer

theorem Parcel.bytes_ne_nil {c : Packet.Config} (p : Parcel c) : p.bytes ≠ [] := by
  apply List.ne_nil_of_length_pos
  rw [bytes, Packet.length_withHeader, Header.size]
  omega

/-- Writing to a stream that takes everything. -/
theorem OutputStream.writeAll_unlimited {bytes : Bytes} (hbytes : bytes ≠ []) :
    unlimited.writeAll bytes = ⟨.done, unlimited, [.wrote bytes.length bytes]⟩ := by
  show writeScripted [] .unlimited [] bytes = _
  rw [writeScripted, if_neg hbytes]
  rfl

/-- A stream that takes everything is sent just the packet. -/
theorem Writer.send_unlimited {w : Writer} {c : Packet.Config} (hw : w.Serves c) (p : Parcel c) :
    ∃ w' : Writer, w'.Serves c ∧ w.send .unlimited p.id p.payload =
      ⟨.ok (), w', .unlimited, [.wrote p.bytes.length p.bytes, .flushed]⟩ := by
  obtain ⟨w', hw', hbuffer, hpacket⟩ := assemble_parcel hw p
  refine ⟨w', hw', ?_⟩
  unfold send
  rw [hpacket]
  dsimp only
  rw [hbuffer, OutputStream.writeAll_unlimited p.bytes_ne_nil]
  rfl

/-! ## Telemetry -/

/-- No record of the catalog is longer than a reader accepts. -/
theorem MessageKind.payloadSize_le (k : MessageKind) :
    k.payloadSize ≤ Packet.defaultMaxPayload := by
  cases k <;> decide

/-- A record as a message from the controller. -/
def Telemetry.parcel (t : Telemetry) : Parcel .inbound where
  id := t.kind.id
  payload := t.encode
  allowed := by
    rw [t.length_encode]
    exact t.kind.payloadSize_le
  encodable := by
    rw [t.length_encode]
    exact Nat.le_trans t.kind.payloadSize_le (by decide)

namespace Writer

/-- Send records one after the other. -/
def sendRecords (w : Writer) (stream : OutputStream) : List Telemetry → List Sent
  | [] => []
  | t :: ts =>
    let s := w.sendRecord stream t
    s :: s.writer.sendRecords s.stream ts

/-- The packets that a controller writes for records: the bytes that a stream takes from a writer
of inbound packets. -/
def packets (records : List Telemetry) : List Bytes :=
  ((make .inbound).sendRecords .unlimited records).map fun s => takenBytes s.activity

/-- Records that are sent one after the other are taken as their packets, each by itself. The writer
that is left keeps another header, but it serves as the first one did. -/
theorem takenBytes_sendRecords {w : Writer} (hw : w.Serves .inbound) (records : List Telemetry) :
    ((w.sendRecords .unlimited records).map fun s => takenBytes s.activity) =
      records.map fun t => t.parcel.bytes := by
  induction records generalizing w with
  | nil => rfl
  | cons t ts ih =>
    obtain ⟨w', hw', hsent⟩ := send_unlimited hw t.parcel
    have hrecord : w.sendRecord .unlimited t =
        ⟨.ok (), w', .unlimited, [.wrote t.parcel.bytes.length t.parcel.bytes, .flushed]⟩ := hsent
    rw [sendRecords, hrecord, List.map_cons, List.map_cons, ih hw']
    congr 1
    exact List.append_nil _

/-- A record is sent as the packet of its own message, whatever was sent before. -/
theorem packets_eq (records : List Telemetry) :
    packets records = records.map fun t => t.parcel.bytes :=
  takenBytes_sendRecords (serves_make .inbound) records

end Writer

/-! ## Commands -/

theorem RobotCommand.length_encode (c : RobotCommand) : c.encode.length = 42 :=
  layout.length_encode c.toValues

/-- A command is read back from its own payload, to the last bit. -/
theorem RobotCommand.decode_encode (c : RobotCommand) : decode c.encode = .ok c := by
  rw [decode, encode, if_pos (layout.length_encode c.toValues), Layout.decode_encode,
    ofValues_toValues]

/-- A command as a message to the controller. -/
def RobotCommand.parcel (c : RobotCommand) : Parcel .outbound where
  id := id
  payload := c.encode
  allowed := by
    rw [c.length_encode]
    decide
  encodable := by
    rw [c.length_encode]
    decide

end ControllerLink
