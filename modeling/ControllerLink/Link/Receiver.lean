/-
# Receiving

The receiver polls for packets while the link is up and tells a sink of every
record.  A packet that fails a check is logged and dropped; a stream that fails
takes the link down.
-/
import ControllerLink.Link.Health
import ControllerLink.Link.Sink
import ControllerLink.Stream.Reader

set_option autoImplicit false

namespace ControllerLink

/-- The receiving part of a link. -/
structure Receiver where
  reader : Reader
  /-- The records that the sink has been told of, each by one of its methods. -/
  told : List Telemetry
deriving DecidableEq, Repr

/-- The calls of a sink that takes debug reports value by value. -/
def Receiver.calls (r : Receiver) : List SinkCall :=
  r.told.flatMap Telemetry.sinkCalls

/-- What one step of receiving came to. -/
inductive ReceiveOutcome where
  /-- The link is down; nothing was read. -/
  | backedOff
  /-- Nothing yet. -/
  | idle
  | dispatched (kind : MessageKind)
  /-- A valid packet with an id outside of the catalog. -/
  | unknown (id : UInt8)
  /-- A packet was dropped. -/
  | discarded
  /-- The stream failed. -/
  | linkLost
  /-- The step never comes back. -/
  | stalled
deriving DecidableEq, Repr

/-- What ends the wait for the rest of a packet on a quiet line. -/
structure Watch where
  /-- Whether everything is to stop. -/
  stop : Bool
  /-- After so many quiet reads in one step the link is taken down. -/
  quietLimit : Option Nat
deriving DecidableEq, Repr

namespace Watch

/-- Wait without end. -/
def forever : Watch := ⟨false, none⟩

/-- How often waiting goes on. -/
def patience (w : Watch) : Patience :=
  if w.stop then some 0 else w.quietLimit.map (· - 1)

/-- Whether so many quiet reads take the link down. -/
def isExceeded (w : Watch) (quietReads : Nat) : Bool :=
  match w.quietLimit with
  | none => false
  | some limit => 0 < quietReads && limit ≤ quietReads

end Watch

namespace Receiver

/-- A receiver that has received nothing yet. -/
def fresh : Receiver := ⟨.make .inbound, []⟩

/-- What is logged of a dropped packet. -/
def dropEvent : PacketError → LogEvent
  | .headerChecksum expected actual => .headerDropped expected actual
  | .packetChecksum expected actual => .packetDropped expected actual
  | .malformedPayload id expected actual => .payloadDropped id expected actual
  | .truncated expected received => .partialAbandoned expected received
  | e => .frameDropped e.message

/-- Tell the sink of the record in a packet. -/
def deliver (r : Receiver) (l : Link) (f : Frame) : ReceiveOutcome × Receiver × Link :=
  match MessageKind.ofId? f.id with
  | none => (.unknown f.id, r, l.logEvent (.unknownIgnored f.id f.payload.length))
  | some kind =>
    match Telemetry.decode kind f.payload with
    | .ok t => (.dispatched kind, { r with told := Sink.recording.dispatch r.told t }, l)
    | .error e => (.discarded, r, l.logEvent (dropEvent e))

/-- What follows from the outcome of a poll. -/
def settle (r : Receiver) (l : Link) : Polled → ReceiveOutcome × Receiver × Link
  | .idle => (.idle, r, l)
  | .stalled => (.stalled, r, l)
  | .frame f => r.deliver l f
  | .failed e =>
    if e.isLinkFailure then (.linkLost, r, l.markDown e.message)
    else (.discarded, r, l.logEvent (dropEvent e))

/-- The link after a poll: its port read, its events logged, and taken down if
the line was quiet for too long. -/
def afterPoll (l : Link) (w : Watch) (p : Poll) : Link :=
  let l := { l with port := l.port.afterReads p.transcript.reads p.input }
  let l := l.logAll p.transcript.events
  if w.isExceeded p.transcript.quietReads then l.markDown "idle limit" else l

/-- One step: nothing while the link is down, else one poll. -/
def step (r : Receiver) (l : Link) (w : Watch) : ReceiveOutcome × Receiver × Link :=
  if l.up then
    let p := r.reader.poll l.port.input w.patience
    settle { r with reader := p.reader } (afterPoll l w p) p.outcome
  else (.backedOff, r, l)

end Receiver

end ControllerLink
