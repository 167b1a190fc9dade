/-
# Why a port fails

The causes for which a serial port cannot be opened or used, and their wording.
-/
import ControllerLink.Fault

set_option autoImplicit false

namespace ControllerLink

/-- What kept a port from being opened. -/
inductive OpenCause where
  | noDevice
  | invalidInput
  | unknown
  | fault (kind : FaultKind)
deriving DecidableEq, Repr

/-- The kind of fault that a cause amounts to. -/
def OpenCause.kind : OpenCause → FaultKind
  | noDevice => .notFound
  | invalidInput => .invalidInput
  | unknown => .other
  | fault kind => kind

/-- Why a port failed. -/
inductive PortError where
  /-- The port could not be opened. -/
  | openFailed (port : String) (cause : OpenCause) (text : String)
  /-- Reading or writing failed. -/
  | stream (fault : Fault)
  | notOpen
  /-- Settings that can never open a port. -/
  | invalidSettings (text : String)
  /-- Settings that are valid but not available. -/
  | unsupported (text : String)
deriving DecidableEq, Repr

namespace PortError

/-- The wording of an error. -/
def message : PortError → String
  | openFailed port _ text => s!"failed to open {port}: {text}"
  | stream fault => s!"transport I/O error: {fault.message}"
  | notOpen => "transport is not open"
  | invalidSettings text => s!"invalid serial configuration: {text}"
  | unsupported text => s!"unsupported serial setting: {text}"

/-- The fault that an error is seen as by readers and writers of streams. -/
def toFault : PortError → Fault
  | stream fault => fault
  | notOpen => .withText .notConnected notOpen.message
  | openFailed _ cause text => .withText cause.kind text
  | e@(invalidSettings _) | e@(unsupported _) => .withText .other e.message

end PortError

end ControllerLink
