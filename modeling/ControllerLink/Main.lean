/-
# The command line

Reads the arguments, the environment, the capture and the clock, asks the
program what follows from them, and writes that out.
-/
import ControllerLink.Console.PortList
import ControllerLink.Console.Program
import Std.Time.DateTime.Timestamp

set_option autoImplicit false

namespace ControllerLink.CommandLineTool

/-- The help text. -/
def helpText : String :=
  "Usage: robolink [OPTIONS] <COMMAND>\n\nCommands:\n  run      run a link\n" ++
  "  decode   decode a capture\n  ports    list serial ports\n  version  show the version\n" ++
  "  help     show this text\n\nOptions:\n  --format <json|table|pretty>\n" ++
  "  --log-format <text|json>\n  --log-level <error|warn|info|debug|trace>\n" ++
  "  -h, --help\n  -V, --version\n"

/-- The fault behind a failure of the system. -/
def faultOf : IO.Error → Fault
  | .noFileOrDirectory .. => .withText .notFound "No such file or directory (os error 2)"
  | .permissionDenied .. => .withText .permissionDenied "Permission denied (os error 13)"
  | .inappropriateType _ code _ =>
    .withText .other
      (if code = 20 then "Not a directory (os error 20)" else "Is a directory (os error 21)")
  | e => .withText .other (toString e)

/-- The result of an action, or the fault that it met. -/
def attempt {α : Type} (action : IO α) : IO (Except Fault α) := do
  try
    return .ok (← action)
  catch e => return .error (faultOf e)

/-- The bytes of a file, or why there are none. -/
def readFile (path : String) : IO Program.FileContent := do
  match ← attempt (IO.FS.Handle.mk path .read) with
  | .error f => return .error f
  | .ok file => return .ok ((← attempt file.readBinToEnd).map (·.toList))

/-- Everything that a stream still gives, behind `front`. -/
partial def readRest (input : IO.FS.Stream) (front : ByteArray) : IO ByteArray := do
  let chunk ← input.read 65536
  if chunk.isEmpty then return front else readRest input (front ++ chunk)

/-- Everything on standard input. -/
def readInput : IO (Except Fault Bytes) := do
  return (← attempt (do readRest (← IO.getStdin) .empty)).map (·.toList)

/-- The present time as it is written into records. -/
def timeNow : IO String := do
  let now ← Std.Time.Timestamp.now
  return Report.timeText now.toMillisecondsSinceUnixEpoch.val.toNat

/-- Where serial devices are looked for. -/
def devicePaths : List String :=
  ["/dev/ttyUSB", "/dev/ttyACM"].flatMap fun stem =>
    (List.range 16).map fun n => stem ++ toString n

/-- The serial devices of the machine. -/
def devices : IO (List PortEntry) := do
  let mut found := []
  for path in devicePaths do
    if (← attempt (IO.FS.realPath path)).isOk then found := found ++ [⟨path, "usb", none⟩]
  return found

/-- Write bytes to standard output. -/
def write (bytes : Bytes) : IO Unit := do
  let output ← IO.getStdout
  output.write ⟨bytes.toArray⟩
  output.flush

/-- Write text to standard output. -/
def writeText (text : String) : IO Unit :=
  write (Text.Utf8.encode text.toList)

/-- Report a failure and give its exit status. -/
def fail (e : ExitError) : IO UInt32 := do
  IO.eprintln ("error: " ++ e.message)
  return UInt32.ofNat e.code

/-- What is said about arguments that are not accepted. -/
def refuse (e : UsageError) : IO UInt32 := do
  match e with
  | .displayHelp => writeText helpText
  | .displayVersion => writeText (Program.versionText false)
  | .displayHelpOnMissing => IO.eprint helpText
  | _ => IO.eprintln "error: the arguments are not accepted; see --help"
  return UInt32.ofNat e.code

/-- The values of the environment variables that stand in for arguments. -/
def environment : IO (String → Option String) := do
  let mut values : List (String × String) := []
  for spec in Options.subcommands.flatMap Prod.snd do
    if let some name := spec.env then
      if let some value ← IO.getEnv name then values := (name, value) :: values
  return fun name => values.lookup name

/-- Do what a command asks for. -/
def perform (format : OutputFormat) : Command → IO UInt32
  | .run a =>
    match Program.prepare a with
    | .error e => fail e
    | .ok ready => fail (.ofPort "bridge start failed"
        (.openFailed ready.port.name .unknown "there is no driver for serial devices"))
  | .decode path summaryOnly => do
    let input ← if path = "-" then readInput else pure (.ok [])
    let file ← if path = "-" then pure (.ok (.ok [])) else readFile path
    let finish := Program.decode format path summaryOnly (← timeNow) input fun _ => file
    write finish.output
    match finish.result with
    | .ok code => return UInt32.ofNat code
    | .error e => fail e
  | .ports => do
    writeText (PortEntry.listText (← devices) format)
    return 0
  | .version extended => do
    writeText (Program.versionText extended)
    return 0

end ControllerLink.CommandLineTool

open ControllerLink CommandLineTool in
/-- The program: records go to standard output as JSON unless it is a terminal. -/
def main (args : List String) : IO UInt32 := do
  match Options.parse (← environment) args with
  | .error e => refuse e
  | .ok invocation =>
    let standard : OutputFormat := if ← (← IO.getStdout).isTty then .pretty else .json
    perform (invocation.format.getD standard) invocation.command
