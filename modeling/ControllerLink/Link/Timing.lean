/-
# Timing of a link

How often the supervisor, the receiver and the sender of a running link act.
-/
import ControllerLink.Duration

set_option autoImplicit false

namespace ControllerLink

/-- The pauses of the parts of a running link. -/
structure Timing where
  /-- Between two ticks of the supervisor. -/
  reconnect : Duration
  /-- Of the receiver and the sender while the link is down. -/
  backoff : Duration
  /-- Between two commands. -/
  sendPeriod : Duration
deriving DecidableEq, Repr

end ControllerLink
