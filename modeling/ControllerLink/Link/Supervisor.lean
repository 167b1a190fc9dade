/-
# The supervisor

The supervisor keeps the port open: it opens it when it starts, and from then
on closes and opens it again at every tick that finds the link down.
-/
import ControllerLink.Link.Health

set_option autoImplicit false

namespace ControllerLink

/-- The supervisor of a link. -/
structure Supervisor where
  /-- Failed attempts to open the port since the last one that succeeded. -/
  failures : Nat
deriving DecidableEq, Repr

namespace Supervisor

/-- Take note of a failed attempt. -/
def recordFailure (s : Supervisor) (l : Link) (reason : String) : Supervisor × Link :=
  let failures := s.failures + 1
  let event : LogEvent :=
    if failures = 1 then .openFailed ScriptedPort.name reason
    else .openStillFailing ScriptedPort.name reason failures
  (⟨failures⟩, (l.markDown reason).logEvent event)

/-- Try to open the port. -/
def tryOpen (s : Supervisor) (l : Link) : Supervisor × Link :=
  let (result, port) := l.port.tryOpen
  let l := { l with port }
  match result with
  | .error e => s.recordFailure l e.message
  | .ok () =>
    if port.isOpen then
      let event : LogEvent :=
        if 0 < s.failures then .linkRestored ScriptedPort.name (s.failures + 1)
        else .linkUp ScriptedPort.name
      (⟨0⟩, (l.logEvent event).markUp)
    else s.recordFailure l "port reported closed after open"

/-- A supervisor that has just started. -/
def start (l : Link) : Supervisor × Link :=
  tryOpen ⟨0⟩ l

/-- Open the port again if the link is down; the answer tells whether the link is up. -/
def tick (s : Supervisor) (l : Link) : Bool × Supervisor × Link :=
  if l.up then (true, s, l)
  else
    let (s, l) := s.tryOpen { l with port := l.port.close }
    (l.up, s, l)

end Supervisor

end ControllerLink
