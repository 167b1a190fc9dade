/-
# The reporter

A sink that writes every record it is told of as one text with a line feed
behind it.  After the first write that fails nothing more is written; a closed
pipe also clears the flag that keeps the program running.  Records are counted,
and the names of debug values collected, whether or not anything is written.
-/
import ControllerLink.Link.Sink
import ControllerLink.Log
import ControllerLink.Report.Format
import ControllerLink.Stream.Output

set_option autoImplicit false

namespace ControllerLink

/-- A sink that writes records to a stream. -/
structure Reporter where
  format : OutputFormat
  stream : OutputStream
  /-- What was asked of the stream so far. -/
  activity : List OutputActivity
  /-- Names of debug values seen so far, sorted. -/
  names : List String
  records : Nat
  writeFailed : Bool
  /-- Whether the program is to go on. -/
  running : Bool
  log : List LogEvent

namespace Reporter

/-- A reporter that has written nothing yet. -/
def make (format : OutputFormat) (stream : OutputStream) : Reporter :=
  ⟨format, stream, [], [], 0, false, true, []⟩

/-- The fault of a write that did not end well. -/
def faultOf : WriteEnd → Option Fault
  | .done => none
  | .refused => some (.withText .writeZero "failed to write whole buffer")
  | .failed kind => some (.ofKind kind)

/-- Write some bytes. -/
def write (r : Reporter) (bytes : Bytes) : Option Fault × Reporter :=
  let w := r.stream.writeAll bytes
  (faultOf w.result, { r with stream := w.stream, activity := r.activity ++ w.activity })

/-- Write a text and a line feed. -/
def writeLine (r : Reporter) (text : String) : Option Fault × Reporter :=
  match r.write (Text.Utf8.encode text.toList) with
  | (none, r) => r.write (Text.Utf8.encode ['\n'])
  | failure => failure

/-- Write a text and a line feed, and take note if that fails. -/
def emit (r : Reporter) (text : String) : Reporter :=
  match r.writeLine text with
  | (none, r) => r
  | (some f, r) =>
    { r with
      writeFailed := true
      log := r.log ++ [.outputFailed f.message]
      running := r.running && f.kind != .brokenPipe }

/-- Count a record, and write its text unless a write has failed before. -/
def report (r : Reporter) (text : String) : Reporter :=
  let r := { r with records := r.records + 1 }
  if r.writeFailed then r else r.emit text

/-- Insert a name into a sorted list. -/
def insertName (name : String) : List String → List String
  | [] => [name]
  | n :: ns => if name < n then name :: n :: ns else n :: insertName name ns

/-- Take note of the name of a debug value. -/
def noteName (r : Reporter) (name : String) : Reporter :=
  if r.names.contains name then r
  else { r with names := insertName name r.names, log := r.log ++ [.channelFound name] }

/-- Report a record as a whole. -/
def print (r : Reporter) (receivedAt : String) (t : Telemetry) : Reporter :=
  r.report (Report.recordText r.format receivedAt t)

/-- Report one debug value. -/
def printDebug (r : Reporter) (receivedAt name : String) (value : Single) : Reporter :=
  (r.noteName name).report (Report.debugText r.format receivedAt name value)

/-- The sink that reports what it is told, debug reports value by value. -/
def sink (receivedAt : String) : Sink Reporter :=
  .byValue (fun r name value => r.printDebug receivedAt name value) fun r t => r.print receivedAt t

/-- Report a record, by the method of its kind. -/
def dispatch (r : Reporter) (receivedAt : String) (t : Telemetry) : Reporter :=
  (sink receivedAt).dispatch r t

/-- Report one thing that a sink is told. -/
def accept (receivedAt : String) (r : Reporter) : SinkCall → Reporter
  | .debugValue name value => r.printDebug receivedAt name value
  | .record t => r.print receivedAt t

/-- A record is reported as what a sink is told of it. -/
theorem dispatch_eq_foldl (r : Reporter) (receivedAt : String) (t : Telemetry) :
    r.dispatch receivedAt t = t.sinkCalls.foldl (accept receivedAt) r :=
  Sink.dispatch_byValue _ _ r t

end Reporter

end ControllerLink
