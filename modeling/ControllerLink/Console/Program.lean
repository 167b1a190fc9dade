/-
# The program

What the program does for a command, given what it reads: decode a capture,
check the settings of a link, or tell its version.
-/
import ControllerLink.Console.Exit
import ControllerLink.Console.Options
import ControllerLink.Link.Timing
import ControllerLink.Port.Serial
import ControllerLink.Report.Capture
import ControllerLink.Report.Reporter

set_option autoImplicit false

namespace ControllerLink

namespace Program

/-- The version of the program. -/
def version : String := "0.1.0"

/-- The version line, or what is shown when more than that is asked for. -/
def versionText (extended : Bool) : String :=
  if extended then "name: robolink\nversion: " ++ version ++ "\n"
  else "robolink " ++ version ++ "\n"

/-- What a file gives: it cannot be opened, or it can and is then read. -/
abbrev FileContent := Except Fault (Except Fault Bytes)

/-- What the program has written, and how it ends. -/
structure Finish where
  output : Bytes
  result : Except ExitError Nat

/-! ## Running a link -/

/-- A link that is ready to be run. -/
structure Ready where
  port : SerialPort
  timing : Timing
  noStdin : Bool

/-- Read a duration among the arguments. -/
def duration (s : String) : Except ExitError Duration :=
  (Duration.parse s).mapError ExitError.ofDuration

/-- The timing that the arguments ask for. -/
def timing (a : RunArguments) : Except ExitError Timing := do
  return ⟨← duration a.reconnectInterval, ← duration a.backoff, ← duration a.sendPeriod⟩

/-- The port settings that the arguments ask for. -/
def settings (a : RunArguments) : Except ExitError SerialSettings := do
  return ⟨a.port, a.baud, a.flowControl, a.parity, a.stopBits, ← duration a.readTimeout⟩

/-- Check everything that a link needs; the timing is checked before the port. -/
def prepare (a : RunArguments) : Except ExitError Ready := do
  let timing ← timing a
  let settings ← settings a
  let port ← (SerialPort.make settings).mapError (ExitError.ofPort "invalid port settings")
  return ⟨port, timing, a.noStdin⟩

/-! ## Decoding a capture -/

/-- The capture in a file, or on standard input. -/
def readCapture (path : String) (stdin : Except Fault Bytes) (file : String → FileContent) :
    Except ExitError Bytes := do
  let content ←
    if path = "-" then pure stdin
    else (file path).mapError (ExitError.ofFault ("cannot open " ++ path))
  content.mapError (ExitError.ofFault "read failed")

/-- Decode a capture, print its records unless only the summary is asked for, and then the
summary. -/
def decodeCapture (format : OutputFormat) (summaryOnly : Bool) (receivedAt : String)
    (capture : Bytes) : Finish :=
  let tell (r : Reporter) (t : Telemetry) : Reporter :=
    if summaryOnly then r else r.dispatch receivedAt t
  match Capture.decode tell (.make format .unlimited) capture with
  | .error e => ⟨[], .error (.ofPacket "read failed" e)⟩
  | .ok (summary, reporter) =>
    let output := takenBytes reporter.activity
    ⟨output ++ Text.Utf8.encode (summary.text format ++ "\n").toList, .ok 0⟩

/-- Decode the capture that a path names. -/
def decode (format : OutputFormat) (path : String) (summaryOnly : Bool) (receivedAt : String)
    (stdin : Except Fault Bytes) (file : String → FileContent) : Finish :=
  match readCapture path stdin file with
  | .error e => ⟨[], .error e⟩
  | .ok capture => decodeCapture format summaryOnly receivedAt capture

end Program

end ControllerLink
