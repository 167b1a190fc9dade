/-
# Schedules

A bridge on a clock of milliseconds.  In each of them every worker whose pause
is over acts, the supervisor first and the sender last; how long a worker then
pauses follows from the timing.  A worker panics when the end of its pause is
too late to be counted.
-/
import ControllerLink.Link.Bridge
import ControllerLink.Link.Timing

set_option autoImplicit false

namespace ControllerLink

namespace Duration

/-- Whole milliseconds that are over when a duration is, at least one. -/
def clockTicks (d : Duration) : Nat :=
  max 1 (d.seconds * 1000 + (d.nanos + 999999) / 1000000)

end Duration

/-- A bridge on a clock. -/
structure Schedule where
  bridge : Bridge
  timing : Timing
  /-- The time at which the clock started. -/
  origin : Duration
  /-- Milliseconds since then. -/
  clock : Nat
  /-- When the supervisor acts next. -/
  supervisorDue : Nat
  receiverDue : Nat
  senderDue : Nat
  /-- Whether the receiver waits for the rest of a packet. -/
  isBlocked : Bool
deriving DecidableEq, Repr

namespace Schedule

/-- A bridge that has just started. -/
def start (origin : Duration) (timing : Timing) (port : ScriptedPort) : Schedule :=
  ⟨.start port, timing, origin, 0, 0, 0, 0, false⟩

/-- The present time. -/
def now (s : Schedule) : Duration :=
  let elapsed := Duration.ofMillis s.clock
  let nanos := s.origin.nanos + elapsed.nanos
  ⟨s.origin.seconds + elapsed.seconds + nanos / 1000000000, nanos % 1000000000⟩

/-- Whether a worker can still act. -/
def isAlive (s : Schedule) (w : Worker) : Bool :=
  s.bridge.running && !s.bridge.panicked.contains w

/-- Let something happen to the bridge. -/
def event (s : Schedule) (e : BridgeEvent) : Schedule :=
  { s with bridge := s.bridge.step e }

/-- Let a worker pause. -/
def pause (s : Schedule) (w : Worker) (d : Duration) : Schedule :=
  match Duration.deadline? s.now d with
  | none => s.event (.panic w)
  | some _ =>
    let due := s.clock + d.clockTicks
    match w with
    | .supervisor => { s with supervisorDue := due }
    | .receiver => { s with receiverDue := due }
    | .sender => { s with senderDue := due }

/-- The supervisor acts and pauses. -/
def supervise (s : Schedule) : Schedule :=
  if s.isAlive .supervisor && decide (s.supervisorDue ≤ s.clock) then
    (s.event (.work .tick)).pause .supervisor s.timing.reconnect
  else s

/-- What a step of receiving, with nothing else going on, would come to. -/
def receiveOutcome (s : Schedule) : ReceiveOutcome :=
  (s.bridge.station.receiver.step s.bridge.station.link .forever).1

/-- The receiver makes at most `fuel` steps, until nothing is left to read or the link is down. -/
def receiveWithin : Nat → Schedule → Schedule
  | 0, s => s
  | fuel + 1, s =>
    match s.receiveOutcome with
    | .stalled => { s with isBlocked := true }
    | .backedOff => s.pause .receiver s.timing.backoff
    | .idle =>
      let s := s.event (.work (.receive .forever))
      if s.bridge.station.link.port.script.isEmpty then s else receiveWithin fuel s
    | _ => receiveWithin fuel (s.event (.work (.receive .forever)))

/-- The receiver acts, and pauses if the link is down.  Every step but the last takes something
from the script. -/
def receive (s : Schedule) : Schedule :=
  if s.isAlive .receiver && decide (s.receiverDue ≤ s.clock) then
    receiveWithin (s.bridge.station.link.port.input.weight + 2) { s with isBlocked := false }
  else s

/-- The sender acts and pauses. -/
def send (s : Schedule) : Schedule :=
  if s.isAlive .sender && decide (s.senderDue ≤ s.clock) then
    let pause := if s.bridge.station.link.up then s.timing.sendPeriod else s.timing.backoff
    (s.event (.work (.send 0))).pause .sender pause
  else s

/-- One millisecond. -/
def tick (s : Schedule) : Schedule :=
  let s := s.supervise.receive.send
  { s with clock := s.clock + 1 }

/-- So many milliseconds. -/
def ticks : Nat → Schedule → Schedule
  | 0, s => s
  | n + 1, s => ticks n s.tick

/-- Wait until something is the case, for so many milliseconds at most; the answer tells
whether it is. -/
def waitFor (goal : Schedule → Bool) : Nat → Schedule → Bool × Schedule
  | 0, s => (goal s, s)
  | n + 1, s => if goal s then (true, s) else waitFor goal n s.tick

/-- Whether a packet has been sent. -/
def hasSent (s : Schedule) : Bool := 0 < s.bridge.station.sender.sent

/-- Whether the receiver is reading and finds the line quiet. -/
def isQuiet (s : Schedule) : Bool :=
  s.isAlive .receiver && s.bridge.station.link.up &&
    (s.isBlocked || s.bridge.station.link.port.script.isEmpty)

/-- The packet written last. -/
def lastWritten? (s : Schedule) : Option Bytes :=
  s.bridge.station.link.port.written.getLast?

/-- The packet that carries a command without its time stamp. -/
def packetOf (c : RobotCommand) : Option Bytes :=
  (Packet.encode Packet.outboundStart RobotCommand.id { c with timeStamp := 0 }.encode).toOption

/-- Whether the packet written last carries the present command. -/
def carriesCommand (s : Schedule) : Bool :=
  s.lastWritten?.isSome && s.lastWritten? == packetOf s.bridge.station.command

/-- Shut the bridge down; a receiver that waits for the rest of a packet gives it up. -/
def shutdown (s : Schedule) : Except LinkError Unit × Schedule :=
  let rest := if s.isAlive .receiver && s.isBlocked then [.receive ⟨true, none⟩] else []
  let (result, bridge) := s.bridge.shutdown rest
  (result, { s with bridge })

end Schedule

end ControllerLink
