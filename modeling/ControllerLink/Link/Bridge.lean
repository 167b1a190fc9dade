/-
# Bridges

A bridge is a station whose supervisor, receiver and sender work side by side
until the bridge is shut down.  A run of a bridge is the list of its events in
the order in which they happen, the operations of its workers one after the
other; shutting down waits for what the workers still do and then closes the
port.
-/
import ControllerLink.Link.Error
import ControllerLink.Link.Station
import ControllerLink.Text.Quoted

set_option autoImplicit false

namespace ControllerLink

/-- The workers of a bridge. -/
inductive Worker where
  | supervisor
  | receiver
  | sender
deriving DecidableEq, Repr

namespace Worker

/-- The workers in the order in which a bridge waits for them. -/
def all : List Worker := [supervisor, receiver, sender]

/-- The name of a worker's thread. -/
def threadName : Worker → String
  | supervisor => "link-supervisor"
  | receiver => "link-rx"
  | sender => "link-tx"

end Worker

/-- A station with its workers. -/
structure Bridge where
  station : Station
  /-- The workers that have panicked. -/
  panicked : List Worker
  /-- Whether the workers are to go on. -/
  running : Bool
deriving DecidableEq, Repr

/-- What happens to a bridge. -/
inductive BridgeEvent where
  /-- A worker does something. -/
  | work (o : Operation)
  /-- A worker panics. -/
  | panic (w : Worker)
  /-- The command record is changed. -/
  | change (c : CommandChange)
  /-- The bridge is shut down; `rest` is what the workers do before they notice. -/
  | shutdown (rest : List Operation)
deriving DecidableEq, Repr

namespace Bridge

/-- A bridge over a port, which is opened once. -/
def start (port : ScriptedPort) : Bridge :=
  ⟨((Station.ofPort port).apply .supervise).2, [], true⟩

/-- The first worker that has panicked, in the order in which they are waited for. -/
def firstPanicked? (b : Bridge) : Option Worker :=
  Worker.all.find? b.panicked.contains

/-- What shutting down a bridge answers. -/
def verdict (b : Bridge) : Except LinkError Unit :=
  match b.firstPanicked? with
  | some w => .error (.workerPanicked w.threadName)
  | none => .ok ()

/-- Stop the workers, wait for what they still do, and close the port; a bridge that has been
shut down stays as it is. -/
def shutdown (b : Bridge) (rest : List Operation) : Except LinkError Unit × Bridge :=
  if b.running then
    (b.verdict, { b with station := (b.station.run rest).mapPort (·.close), running := false })
  else (.ok (), b)

/-- One event; a bridge that has been shut down has no workers. -/
def step (b : Bridge) : BridgeEvent → Bridge
  | .work o => if b.running then { b with station := (b.station.apply o).2 } else b
  | .panic w => if b.running then { b with panicked := w :: b.panicked } else b
  | .change c => { b with station := (b.station.apply (.change c)).2 }
  | .shutdown rest => (b.shutdown rest).2

/-- A run of events. -/
def run (b : Bridge) (events : List BridgeEvent) : Bridge :=
  events.foldl step b

/-- A bridge as shown when it is inspected. -/
def text (b : Bridge) : String :=
  let word (flag : Bool) : String := if flag then "true" else "false"
  "Bridge \x7b transport: " ++ Text.quoted ScriptedPort.name ++ ", up: " ++
    word b.station.link.up ++ ", running: " ++ word b.running ++ " \x7d"

end Bridge

end ControllerLink
