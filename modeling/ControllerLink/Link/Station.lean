/-
# Stations

A station is a link over a scripted port with all its parts: the command
record, the receiver, the sender, and, once it is started, the supervisor.
Whatever can happen to it is an operation, and a run of a station is a list of
operations.
-/
import ControllerLink.Link.LineRefusal
import ControllerLink.Link.Receiver
import ControllerLink.Link.Sender
import ControllerLink.Link.Supervisor

set_option autoImplicit false

namespace ControllerLink

/-- A change of the command record. -/
inductive CommandChange where
  | velocity (vx vy wz : Single)
  | chassis (yaw pitch roll legLength : Single)
  | gimbal (yaw pitch : Single)
  | shooter (fire frictionOn : Bool)
  | replace (c : RobotCommand)
  /-- Several fields changed at once. -/
  | assign (changes : List Assignment)
  /-- A line of command input. -/
  | line (text : String)
deriving DecidableEq, Repr

/-- Change a command record; for a line, the answer tells whether it was understood. -/
def CommandChange.apply : CommandChange → RobotCommand → Option Bool × RobotCommand
  | velocity vx vy wz, c => (none, c.setVelocity vx vy wz)
  | chassis yaw pitch roll legLength, c => (none, c.setChassis yaw pitch roll legLength)
  | gimbal yaw pitch, c => (none, c.setGimbal yaw pitch)
  | shooter fire frictionOn, c => (none, c.setShooter fire frictionOn)
  | replace c', _ => (none, c')
  | assign changes, c => (none, c.assignAll changes)
  | line text, c =>
    let (understood, c') := CommandLine.apply text c
    (some understood, c')

/-- What is logged of a change: why a line was not understood. -/
def CommandChange.events : CommandChange → List LogEvent
  | line text => (CommandLine.refusal? text).toList.map .commandLineIgnored
  | _ => []

/-- A link with its parts. -/
structure Station where
  link : Link
  command : RobotCommand
  receiver : Receiver
  sender : Sender
  supervisor : Option Supervisor
deriving DecidableEq, Repr

/-- What can happen to a station. -/
inductive Operation where
  | push (step : ReadStep)
  | failOpens (count : Nat)
  | openClosed (closed : Bool)
  | failWrites (fail : Bool)
  | openPort
  | closePort
  | readPort (room : Nat)
  | readStream (room : Nat)
  | writePort (bytes : Bytes)
  | change (c : CommandChange)
  | supervise
  | tick
  | markDown (reason : String)
  | receive (w : Watch)
  | send (now : UInt32)
deriving DecidableEq, Repr

/-- What an operation answers. -/
inductive Answer where
  | nothing
  | flag (b : Bool)
  | opened (result : Except PortError Unit)
  | portRead (result : Except PortError Bytes)
  | streamRead (outcome : ReadOutcome)
  | portWritten (result : Except PortError Unit)
  | supervised (failures : Nat)
  | ticked (up : Bool) (failures : Nat)
  /-- What a step of receiving came to, and what the sink was told in it. -/
  | received (outcome : ReceiveOutcome) (calls : List SinkCall)
  /-- What a step of sending came to, and what was written in it. -/
  | sent (outcome : SendOutcome) (written : List Bytes)

namespace Station

/-- A station over a port, with everything else as it is at the beginning. -/
def ofPort (port : ScriptedPort) : Station :=
  ⟨.ofPort port, .idle, .fresh, .fresh, none⟩

/-- Change the port. -/
def mapPort (s : Station) (f : ScriptedPort → ScriptedPort) : Station :=
  { s with link := { s.link with port := f s.link.port } }

/-- One operation. -/
def apply (s : Station) : Operation → Answer × Station
  | .push step => (.nothing, s.mapPort (·.push step))
  | .failOpens count => (.nothing, s.mapPort fun p => { p with openFailures := count })
  | .openClosed closed => (.nothing, s.mapPort fun p => { p with opensClosed := closed })
  | .failWrites fail => (.nothing, s.mapPort fun p => { p with failsWrites := fail })
  | .openPort =>
    let (result, port) := s.link.port.tryOpen
    (.opened result, s.mapPort fun _ => port)
  | .closePort => (.nothing, s.mapPort (·.close))
  | .readPort room =>
    let (result, port) := s.link.port.read room
    (.portRead result, s.mapPort fun _ => port)
  | .readStream room =>
    let (outcome, port) := s.link.port.readStream room
    (.streamRead outcome, s.mapPort fun _ => port)
  | .writePort bytes =>
    let (result, port) := s.link.port.write bytes
    (.portWritten result, s.mapPort fun _ => port)
  | .change c =>
    let (understood, command) := c.apply s.command
    let link := if understood = some false then s.link.logAll c.events else s.link
    (understood.elim .nothing .flag, { s with command, link })
  | .supervise =>
    let (supervisor, link) := Supervisor.start s.link
    (.supervised supervisor.failures, { s with supervisor := some supervisor, link })
  | .tick =>
    match s.supervisor with
    | none => (.nothing, s)
    | some supervisor =>
      let (up, supervisor, link) := supervisor.tick s.link
      (.ticked up supervisor.failures, { s with supervisor := some supervisor, link })
  | .markDown reason => (.flag s.link.up, { s with link := s.link.markDown reason })
  | .receive w =>
    let (outcome, receiver, link) := s.receiver.step s.link w
    (.received outcome (receiver.calls.drop s.receiver.calls.length), { s with receiver, link })
  | .send now =>
    let (outcome, sender, link) := s.sender.step s.link s.command now
    (.sent outcome (link.port.written.drop s.link.port.written.length), { s with sender, link })

/-- A run of operations. -/
def run (s : Station) (operations : List Operation) : Station :=
  operations.foldl (fun s operation => (s.apply operation).2) s

/-- One step of receiving that waits without end: what it came to, and the station after it. -/
def receive (s : Station) : ReceiveOutcome × Station :=
  ((s.receiver.step s.link .forever).1, (s.apply (.receive .forever)).2)

/-- One step of receiving, and a tick of the supervisor behind it if the link was lost. -/
def round (s : Station) : ReceiveOutcome × Station :=
  let (outcome, s) := s.receive
  (outcome, if outcome = .linkLost then (s.apply .tick).2 else s)

/-- Act so many times: what every time came to, and the station after them. -/
def times (act : Station → ReceiveOutcome × Station) :
    Nat → Station → List ReceiveOutcome × Station
  | 0, s => ([], s)
  | n + 1, s =>
    let (outcome, s) := act s
    let (outcomes, s) := times act n s
    (outcome :: outcomes, s)

end Station

end ControllerLink
