/-
# Why a running link fails

A link runs on threads; what can go wrong with them.
-/
import ControllerLink.Fault

set_option autoImplicit false

namespace ControllerLink

/-- Why a link could not run. -/
inductive LinkError where
  /-- A thread could not be started. -/
  | spawn (name : String) (fault : Fault)
  /-- A thread ended by a panic. -/
  | workerPanicked (name : String)
deriving DecidableEq, Repr

/-- The wording of an error. -/
def LinkError.message : LinkError → String
  | spawn name fault => s!"failed to spawn {name} thread: {fault.message}"
  | workerPanicked name => s!"{name} thread panicked"

end ControllerLink
