/-
# Log events

Everything that the parts of a link report while they work, as data.  A line of
the log is a level, a message, and the fields of the event in a fixed order.
-/
set_option autoImplicit false

namespace ControllerLink

/-- How much an event matters. -/
inductive LogLevel where
  | trace
  | debug
  | info
  | warn
deriving DecidableEq, Repr

/-- The name of a level. -/
def LogLevel.name : LogLevel → String
  | .trace => "TRACE"
  | .debug => "DEBUG"
  | .info => "INFO"
  | .warn => "WARN"

/-- What can be reported. -/
inductive LogEvent where
  /-- A byte outside of any packet was dropped. -/
  | byteDiscarded (byte : UInt8)
  /-- A start marker was met after dropped bytes. -/
  | locked (skipped : Nat)
  /-- The rest of a packet has not arrived yet. -/
  | waiting (received expected : Nat)
  /-- Health went from up to down. -/
  | linkDown (reason : String)
  /-- The port was opened at the first attempt. -/
  | linkUp (port : String)
  /-- The port was opened after failed attempts. -/
  | linkRestored (port : String) (attempts : Nat)
  /-- The first of a row of failed attempts to open the port. -/
  | openFailed (port error : String)
  /-- A further failed attempt. -/
  | openStillFailing (port error : String) (attempts : Nat)
  /-- A valid packet had an id outside of the catalog. -/
  | unknownIgnored (id : UInt8) (length : Nat)
  | headerDropped (expected actual : UInt8)
  | packetDropped (expected actual : UInt16)
  | payloadDropped (id : UInt8) (expected actual : Nat)
  | partialAbandoned (expected received : Nat)
  | frameDropped (error : String)
  /-- A command could not be made into a packet. -/
  | commandDropped (error : String)
  /-- A line of commands could not be read. -/
  | commandLineIgnored (error : String)
  /-- A debug value came under a new name. -/
  | channelFound (name : String)
  /-- Output failed for the first time. -/
  | outputFailed (error : String)
deriving DecidableEq, Repr

namespace LogEvent

/-- The level of an event. -/
def level : LogEvent → LogLevel
  | byteDiscarded _ | waiting .. => .trace
  | locked _ | openStillFailing .. | partialAbandoned .. => .debug
  | linkUp _ | linkRestored .. | unknownIgnored .. | channelFound _ => .info
  | linkDown _ | openFailed .. | headerDropped .. | packetDropped .. | payloadDropped .. |
    frameDropped _ | commandDropped _ | commandLineIgnored _ | outputFailed _ => .warn

/-- The message of an event. -/
def message : LogEvent → String
  | byteDiscarded _ => "discarding byte outside a frame"
  | locked _ => "locked onto start marker"
  | waiting .. => "waiting for rest of frame"
  | linkDown _ => "link down"
  | linkUp _ => "link up"
  | linkRestored .. => "link restored"
  | openFailed .. => "open failed, retrying"
  | openStillFailing .. => "open still failing"
  | unknownIgnored .. => "ignoring unknown message kind"
  | headerDropped .. => "header checksum mismatch, frame dropped"
  | packetDropped .. => "packet checksum mismatch, frame dropped"
  | payloadDropped .. => "malformed payload, frame dropped"
  | partialAbandoned .. => "partial frame abandoned"
  | frameDropped _ => "frame dropped"
  | commandDropped _ => "command frame dropped"
  | commandLineIgnored _ => "ignoring command line"
  | channelFound _ => "new debug channel"
  | outputFailed _ => "output write failed, dropping further records"

/-- The fields of an event, in order. -/
def fields : LogEvent → List (String × String)
  | byteDiscarded byte => [("byte", toString byte.toNat)]
  | locked skipped => [("skipped", toString skipped)]
  | waiting received expected =>
    [("received", toString received), ("expected", toString expected)]
  | linkDown reason => [("reason", reason)]
  | linkUp port => [("port", port)]
  | linkRestored port attempts => [("port", port), ("attempts", toString attempts)]
  | openFailed port error => [("port", port), ("error", error)]
  | openStillFailing port error attempts =>
    [("port", port), ("error", error), ("attempts", toString attempts)]
  | unknownIgnored id length => [("id", toString id.toNat), ("len", toString length)]
  | headerDropped expected actual =>
    [("expected", toString expected.toNat), ("actual", toString actual.toNat)]
  | packetDropped expected actual =>
    [("expected", toString expected.toNat), ("actual", toString actual.toNat)]
  | payloadDropped id expected actual =>
    [("id", toString id.toNat), ("expected", toString expected), ("actual", toString actual)]
  | partialAbandoned expected received =>
    [("expected", toString expected), ("received", toString received)]
  | frameDropped error => [("error", error)]
  | commandDropped error => [("error", error)]
  | commandLineIgnored error => [("error", error)]
  | channelFound name => [("name", name)]
  | outputFailed error => [("error", error)]

/-- An event as one line. -/
def line (e : LogEvent) : String :=
  " ".intercalate (e.level.name :: e.message :: e.fields.map fun f => f.1 ++ "=" ++ f.2)

end LogEvent

end ControllerLink
