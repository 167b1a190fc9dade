/-
# Sending

The sender writes the current command record to the port, one packet a step,
while the link is up.  A write that fails takes the link down.
-/
import ControllerLink.Link.Health
import ControllerLink.Stream.Writer

set_option autoImplicit false

namespace ControllerLink

/-- The sending part of a link. -/
structure Sender where
  writer : Writer
  /-- Packets written so far. -/
  sent : Nat
deriving DecidableEq, Repr

/-- What one step of sending came to. -/
inductive SendOutcome where
  /-- The link is down; nothing was written. -/
  | backedOff
  | sent
  /-- The command could not be made into a packet. -/
  | dropped
  /-- The write failed. -/
  | linkLost
deriving DecidableEq, Repr

namespace Sender

/-- A sender that has sent nothing yet. -/
def fresh : Sender := ⟨.make .outbound, 0⟩

/-- One step: write `command` with the time stamp `now`. -/
def step (s : Sender) (l : Link) (command : RobotCommand) (now : UInt32) :
    SendOutcome × Sender × Link :=
  if l.up then
    match s.writer.assemble RobotCommand.id { command with timeStamp := now }.encode with
    | .error e => (.dropped, s, l.logEvent (.commandDropped e.message))
    | .ok writer =>
      let (result, port) := l.port.write writer.buffer
      let l := { l with port }
      match result with
      | .ok () => (.sent, ⟨writer, s.sent + 1⟩, l)
      | .error e =>
        (.linkLost, { s with writer }, l.markDown (PacketError.stream e.toFault).message)
  else (.backedOff, s, l)

end Sender

end ControllerLink
