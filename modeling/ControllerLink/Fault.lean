/-
# Input and output faults

What an operating system reports when reading, writing or opening goes wrong:
a kind, and sometimes a text of its own.
-/
set_option autoImplicit false

namespace ControllerLink

/-- The kinds of input and output faults. -/
inductive FaultKind where
  | notFound
  | permissionDenied
  | connectionRefused
  | connectionReset
  | connectionAborted
  | notConnected
  | brokenPipe
  | alreadyExists
  | wouldBlock
  | invalidInput
  | invalidData
  | timedOut
  | writeZero
  | interrupted
  | unsupported
  | unexpectedEof
  | outOfMemory
  | other
deriving DecidableEq, Repr, Inhabited

namespace FaultKind

/-- Every kind. -/
def all : List FaultKind :=
  [notFound, permissionDenied, connectionRefused, connectionReset, connectionAborted,
    notConnected, brokenPipe, alreadyExists, wouldBlock, invalidInput, invalidData, timedOut,
    writeZero, interrupted, unsupported, unexpectedEof, outOfMemory, other]

/-- What a fault of this kind is called when nothing more is known. -/
def description : FaultKind → String
  | notFound => "entity not found"
  | permissionDenied => "permission denied"
  | connectionRefused => "connection refused"
  | connectionReset => "connection reset"
  | connectionAborted => "connection aborted"
  | notConnected => "not connected"
  | brokenPipe => "broken pipe"
  | alreadyExists => "entity already exists"
  | wouldBlock => "operation would block"
  | invalidInput => "invalid input parameter"
  | invalidData => "invalid data"
  | timedOut => "timed out"
  | writeZero => "write zero"
  | interrupted => "operation interrupted"
  | unsupported => "unsupported"
  | unexpectedEof => "unexpected end of file"
  | outOfMemory => "out of memory"
  | other => "other error"

/-- Whether a read that fails this way only had nothing to give yet. -/
def isQuiet : FaultKind → Bool
  | timedOut | wouldBlock => true
  | _ => false

end FaultKind

/-- A fault: its kind, and its own text where it has one. -/
structure Fault where
  kind : FaultKind
  text : Option String
deriving DecidableEq, Repr, Inhabited

namespace Fault

/-- A fault of which only the kind is known. -/
def ofKind (kind : FaultKind) : Fault := ⟨kind, none⟩

/-- A fault with a text of its own. -/
def withText (kind : FaultKind) (text : String) : Fault := ⟨kind, some text⟩

/-- What the fault says. -/
def message (f : Fault) : String :=
  f.text.getD f.kind.description

end Fault

end ControllerLink
