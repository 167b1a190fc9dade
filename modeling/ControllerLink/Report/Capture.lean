/-
# Decoding captures

A capture is a byte string recorded from a controller.  Every packet in it is
decoded and its record told to a sink; what cannot be decoded is counted, and
the summary holds all counts.
-/
import ControllerLink.Link.Sink
import ControllerLink.Report.Format
import ControllerLink.Stream.Session

set_option autoImplicit false

namespace ControllerLink

/-- What a capture held. -/
structure CaptureSummary where
  frames : Nat
  unknown : Nat
  malformed : Nat
  skippedBytes : Nat
  headerErrors : Nat
  packetErrors : Nat
  oversized : Nat
  truncated : Nat
deriving DecidableEq, Repr

namespace CaptureSummary

/-- The summary with the counts of a reader. -/
def ofStats (unknown malformed : Nat) (s : ReaderStats) : CaptureSummary :=
  ⟨s.frames, unknown, malformed, s.skippedBytes, s.headerErrors, s.packetErrors, s.oversized,
    s.truncated⟩

/-- The counts by name. -/
def rows (s : CaptureSummary) : List (String × Nat) :=
  [("frames", s.frames), ("unknown", s.unknown), ("malformed", s.malformed),
    ("skipped_bytes", s.skippedBytes), ("header_errors", s.headerErrors),
    ("packet_errors", s.packetErrors), ("oversized", s.oversized), ("truncated", s.truncated)]

/-- A summary as it is written out. -/
def text (s : CaptureSummary) (format : OutputFormat) : String :=
  let counts := s.rows.map fun r => (r.1, toString r.2)
  match format with
  | .json =>
    (Json.obj (("kind", .str "summary") :: s.rows.map fun r => (r.1, .int r.2))).render
  | .table => Report.fieldTable "SUMMARY" "COUNT" counts
  | .pretty => Report.fieldLine "summary" counts

end CaptureSummary

namespace Capture

/-- A capture being decoded: its reader, what is left of it, the counts and the sink. -/
structure State (σ : Type) where
  reader : Reader
  input : InputStream
  unknown : Nat
  malformed : Nat
  sink : σ

variable {σ : Type}

/-- What becomes of a result of the reader: the record in a packet is told to the sink, or the
packet is counted; what was refused is passed over. -/
def State.take (tell : σ → Telemetry → σ) (s : State σ) : Polled → State σ
  | .frame f =>
    match MessageKind.ofId? f.id with
    | none => { s with unknown := s.unknown + 1 }
    | some kind =>
      match Telemetry.decode kind f.payload with
      | .ok t => { s with sink := tell s.sink t }
      | .error _ => { s with malformed := s.malformed + 1 }
  | _ => s

theorem State.input_take (tell : σ → Telemetry → σ) (s : State σ) (o : Polled) :
    (s.take tell o).input = s.input := by
  unfold take
  split
  · split
    · rfl
    · split <;> rfl
  · rfl

/-- The fault in a result of the reader, if the stream failed. -/
def faultOf : Polled → Option Fault
  | .failed (.stream f) => some f
  | _ => none

/-- Decode packet after packet until the capture ends, and count the reads, of which `reads` were
made before.  Decoding stops as well when a read never comes back, or when nothing was left of the
script, so that another one would come to the same; a capture that is given as its bytes has no such
end (see `Capture.Loops`). -/
def decodeReads (tell : σ → Telemetry → σ) (s : State σ) (reads : Nat) :
    Except PacketError (State σ) × Nat :=
  let p := s.reader.next s.input
  let taken := { s with reader := p.reader, input := p.input }.take tell p.outcome
  match faultOf p.outcome with
  | some f => (.error (.stream f), reads + 1)
  | none =>
    if _over : p.outcome = .failed .closed ∨ p.outcome = .stalled ∨ s.input.steps = [] then
      (.ok taken, reads + 1)
    else decodeReads tell taken (reads + 1)
  termination_by s.input.weight
  decreasing_by
    rw [State.input_take]
    exact s.reader.weight_next_lt s.input fun h => _over (.inr (.inr h))

/-- Decoding with the number of reads that it makes. -/
def decodeCounted (tell : σ → Telemetry → σ) (s : State σ) : Except PacketError (State σ) × Nat :=
  decodeReads tell s 0

/-- What decoding comes to. -/
def decodeFrom (tell : σ → Telemetry → σ) (s : State σ) : Except PacketError (State σ) :=
  (decodeCounted tell s).1

/-- The state in which decoding a capture begins. -/
def State.start (sink : σ) (capture : Bytes) : State σ :=
  ⟨.make .inbound, .ofBytes capture, 0, 0, sink⟩

/-- Decode a capture. -/
def decode (tell : σ → Telemetry → σ) (sink : σ) (bytes : Bytes) :
    Except PacketError (CaptureSummary × σ) := do
  let s ← decodeFrom tell (.start sink bytes)
  return (.ofStats s.unknown s.malformed s.reader.stats, s.sink)

end Capture

end ControllerLink
