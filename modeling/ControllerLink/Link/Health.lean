/-
# The shared state of a link

The parts of a link share a port, a flag that says whether the port is usable,
and the log.  The flag is raised by whoever opened the port and lowered by
whoever sees it fail; only the change from up to down is logged.
-/
import ControllerLink.Log
import ControllerLink.Port.Scripted

set_option autoImplicit false

namespace ControllerLink

/-- What the parts of a link share. -/
structure Link where
  port : ScriptedPort
  /-- Whether the port is taken to be usable. -/
  up : Bool
  /-- Everything logged so far. -/
  log : List LogEvent
deriving DecidableEq, Repr

namespace Link

/-- A link that is down. -/
def ofPort (port : ScriptedPort) : Link := ⟨port, false, []⟩

/-- Log some events. -/
def logAll (l : Link) (events : List LogEvent) : Link :=
  { l with log := l.log ++ events }

/-- Log an event. -/
def logEvent (l : Link) (event : LogEvent) : Link :=
  l.logAll [event]

/-- Lower the flag. -/
def markDown (l : Link) (reason : String) : Link :=
  if l.up then { l with up := false }.logEvent (.linkDown reason) else l

/-- Raise the flag. -/
def markUp (l : Link) : Link :=
  { l with up := true }

end Link

end ControllerLink
