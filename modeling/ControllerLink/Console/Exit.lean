/-
# Exit statuses

The status that the program ends with for each cause of failure, and the
message it ends with: what was being done, a colon, and what went wrong.
-/
import ControllerLink.Duration
import ControllerLink.Link.Error
import ControllerLink.Packet.Error
import ControllerLink.Port.Error

set_option autoImplicit false

namespace ControllerLink

/-- The end of the program after a failure. -/
structure ExitError where
  code : Nat
  message : String
deriving DecidableEq, Repr

namespace ExitError

/-- Any failure without a status of its own. -/
def failure : Nat := 1

/-- The port failed. -/
def transport : Nat := 3

/-- Access was denied. -/
def permission : Nat := 50

/-- The data is not valid. -/
def dataInvalid : Nat := 60

/-- The program was called in a wrong way. -/
def usage : Nat := 64

/-- The program itself failed. -/
def internal : Nat := 125

/-- The end after a failure of something that was being done. -/
def during (context : String) (code : Nat) (message : String) : ExitError :=
  ⟨code, context ++ ": " ++ message⟩

/-- The status for a fault of input or output. -/
def faultCode : FaultKind → Nat
  | .permissionDenied => permission
  | .notFound => usage
  | _ => failure

/-- The end after a fault of input or output. -/
def ofFault (context : String) (f : Fault) : ExitError :=
  during context (faultCode f.kind) f.message

/-- The end after a failure of a port. -/
def ofPort (context : String) (e : PortError) : ExitError :=
  during context
    (match e with
      | .invalidSettings _ | .unsupported _ => usage
      | _ => transport)
    e.message

/-- The end after a packet was refused. -/
def ofPacket (context : String) : PacketError → ExitError
  | .stream f => ofFault context f
  | .closed => during context failure PacketError.closed.message
  | e => during context dataInvalid e.message

/-- The end after a failure of a running link. -/
def ofLink (context : String) (e : LinkError) : ExitError :=
  during context internal e.message

/-- The end after a text that is no duration. -/
def ofDuration (e : Duration.ParseError) : ExitError :=
  ⟨usage, e.message⟩

end ExitError

end ControllerLink
