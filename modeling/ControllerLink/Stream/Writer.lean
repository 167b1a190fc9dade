/-
# Writing packets to a stream

A writer makes a packet of a payload and offers it to a stream until all of it
is taken, then flushes.  Since the same id and length come again and again, the
last header is kept and used again where it fits.  The packet is put together in
one buffer that a writer keeps between packets.
-/
import ControllerLink.Packet.Codec
import ControllerLink.Record.Command
import ControllerLink.Record.Telemetry
import ControllerLink.Stream.Output

set_option autoImplicit false

namespace ControllerLink

/-- A writer of packets. -/
structure Writer where
  config : Packet.Config
  /-- Where packets are put together, as the last one has left it. -/
  buffer : Bytes
  lastHeader : Option Header
deriving DecidableEq, Repr

/-- What came of sending, and everything after it. -/
structure Sent where
  result : Except PacketError Unit
  writer : Writer
  stream : OutputStream
  activity : List OutputActivity

namespace Writer

/-- A writer that has sent nothing yet. -/
def make (config : Packet.Config) : Writer := ⟨config, [], none⟩

/-- The header for a packet: the last one if it fits, else a new one. -/
def headerFor (w : Writer) (id : UInt8) (length : UInt16) : Header :=
  match w.lastHeader with
  | some h =>
    if h.id = id ∧ h.length = length ∧ h.start = w.config.start then h
    else .make w.config.start id length
  | none => .make w.config.start id length

/-- The writer with the packet for a payload in its buffer. -/
def assemble (w : Writer) (id : UInt8) (payload : Bytes) : Except PacketError Writer :=
  if w.config.maxPayload < payload.length then
    .error (.payloadTooLarge payload.length w.config.maxPayload)
  else if Packet.lengthLimit < payload.length then
    .error (.payloadTooLarge payload.length Packet.lengthLimit)
  else
    let h := w.headerFor id (UInt16.ofNat payload.length)
    -- What an earlier packet has left in the buffer is dropped here.
    let cleared := w.buffer.resize 0
    .ok { w with
      buffer := Checksum.append16 (cleared ++ h.toBytes ++ payload)
      lastHeader := some h }

/-- The result of a sender for the end of writing. -/
def resultOf : WriteEnd → Except PacketError Unit
  | .done => .ok ()
  | .refused => .error .closed
  | .failed kind => .error (.stream (.ofKind kind))

/-- Flush the stream. -/
def flush (w : Writer) (stream : OutputStream) : Sent :=
  let f := stream.flush
  ⟨resultOf f.result, w, f.stream, f.activity⟩

/-- Send a payload. -/
def send (w : Writer) (stream : OutputStream) (id : UInt8) (payload : Bytes) : Sent :=
  match w.assemble id payload with
  | .error e => ⟨.error e, w, stream, []⟩
  | .ok w' =>
    let written := stream.writeAll w'.buffer
    match written.result with
    | .done =>
      let f := w'.flush written.stream
      { f with activity := written.activity ++ f.activity }
    | failure => ⟨resultOf failure, w', written.stream, written.activity⟩

/-- Send a telemetry record. -/
def sendRecord (w : Writer) (stream : OutputStream) (t : Telemetry) : Sent :=
  w.send stream t.kind.id t.encode

/-- Send a command. -/
def sendCommand (w : Writer) (stream : OutputStream) (c : RobotCommand) : Sent :=
  w.send stream RobotCommand.id c.encode

end Writer

end ControllerLink
