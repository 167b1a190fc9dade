/-
# Scripted ports

A port in memory.  What it gives to reads is scripted, what is written to it is
kept, opening it can be made to fail, and every operation is counted.  With an
empty script it is a quiet line.
-/
import ControllerLink.Port.Error
import ControllerLink.Stream.Input

set_option autoImplicit false

namespace ControllerLink

/-- A scripted port. -/
structure ScriptedPort where
  isOpen : Bool
  /-- What the next reads will give. -/
  script : List ReadStep
  /-- Everything written, one entry a write. -/
  written : List Bytes
  readCalls : Nat
  writeCalls : Nat
  openCalls : Nat
  closeCalls : Nat
  /-- How many of the next attempts to open it fail. -/
  openFailures : Nat
  /-- Whether the port stays closed although opening it succeeds. -/
  opensClosed : Bool
  failsWrites : Bool
deriving DecidableEq, Repr

namespace ScriptedPort

/-- A closed port with nothing scripted. -/
def fresh : ScriptedPort := ⟨false, [], [], 0, 0, 0, 0, 0, false, false⟩

/-- The name of the port in log lines. -/
def name : String := "mock"

/-- Add a step to the end of the script. -/
def push (p : ScriptedPort) (step : ReadStep) : ScriptedPort :=
  { p with script := p.script ++ [step] }

/-- Try to open the port. -/
def tryOpen (p : ScriptedPort) : Except PortError Unit × ScriptedPort :=
  if 0 < p.openFailures then
    (.error (.openFailed name .noDevice "scripted open failure"),
      { p with
        openCalls := p.openCalls + 1, openFailures := p.openFailures - 1, isOpen := false })
  else (.ok (), { p with openCalls := p.openCalls + 1, isOpen := !p.opensClosed })

/-- Close the port. -/
def close (p : ScriptedPort) : ScriptedPort :=
  { p with closeCalls := p.closeCalls + 1, isOpen := false }

/-- The port as a stream to read from. -/
def input (p : ScriptedPort) : InputStream :=
  if p.isOpen then ⟨p.script, .quiet⟩ else ⟨[], .shut⟩

/-- The port after some reads that left the stream `rest`. -/
def afterReads (p : ScriptedPort) (reads : Nat) (rest : InputStream) : ScriptedPort :=
  { p with
    readCalls := p.readCalls + reads
    script := if p.isOpen then rest.steps else p.script }

/-- One read through the port's stream. -/
def readStream (p : ScriptedPort) (room : Nat) : ReadOutcome × ScriptedPort :=
  let (outcome, rest) := p.input.read room
  (outcome, p.afterReads 1 rest)

/-- One read of the port itself. -/
def read (p : ScriptedPort) (room : Nat) : Except PortError Bytes × ScriptedPort :=
  let (outcome, p') := p.readStream room
  let result := match outcome with
    | .bytes chunk => .ok chunk
    | .fault f => .error (if p.isOpen then .stream f else .notOpen)
  (result, p')

/-- Write to the port. -/
def write (p : ScriptedPort) (bytes : Bytes) : Except PortError Unit × ScriptedPort :=
  let p' := { p with writeCalls := p.writeCalls + 1 }
  if !p.isOpen then (.error .notOpen, p')
  else if p.failsWrites then (.error (.stream (.ofKind .brokenPipe)), p')
  else (.ok (), { p' with written := p'.written ++ [bytes] })

end ScriptedPort

end ControllerLink
