/-
# The command line of the program

The subcommands, their arguments, and what a list of arguments asks for.
Options for the output and the log are understood before and behind the name of
a subcommand; the one behind it counts.
-/
import ControllerLink.Console.Arguments
import ControllerLink.Port.Settings
import ControllerLink.Report.Format

set_option autoImplicit false

namespace ControllerLink

/-- Settings of the program that are read from its arguments as text. -/
structure RunArguments where
  port : String
  baud : Nat
  flowControl : FlowControl
  parity : Parity
  stopBits : StopBits
  readTimeout : String
  reconnectInterval : String
  backoff : String
  sendPeriod : String
  noStdin : Bool
deriving DecidableEq, Repr

/-- What the program is asked to do. -/
inductive Command where
  /-- Run a link. -/
  | run (a : RunArguments)
  /-- Decode a capture: a file, or standard input for `-`. -/
  | decode (path : String) (summaryOnly : Bool)
  | ports
  | version (extended : Bool)
deriving DecidableEq, Repr

/-- A command, and the format of output if one is asked for. -/
structure Invocation where
  format : Option OutputFormat
  command : Command
deriving DecidableEq, Repr

namespace Options

/-- The largest unsigned 32-bit number. -/
def baudLimit : Nat := Nat.pow 2 32 - 1

/-- Read a speed; a minus sign is allowed before zero. -/
def parseBaud? (s : String) : Option Nat :=
  match s.toList with
  | '-' :: digits =>
    match digits with
    | '+' :: _ => none
    | _ => Duration.parseNumber? 0 digits
  | cs => Duration.parseNumber? baudLimit cs

/-- What is wrong with a value that has to be read. -/
def readable {α ε : Type} (parse : String → Except ε α) (s : String) : Option UsageError :=
  match parse s with
  | .ok _ => none
  | .error _ => some .valueValidation

/-- The options that every subcommand understands. -/
def global : List ArgumentSpec :=
  [.option "format" (ArgumentSpec.oneOf (OutputFormat.all.map OutputFormat.name)) none,
    .option "log-format" (ArgumentSpec.oneOf ["text", "json"]) (some "text"),
    .option "log-level" (ArgumentSpec.oneOf ["error", "warn", "info", "debug", "trace"])
      (some "info"),
    .help]

/-- The serial device. -/
def port : ArgumentSpec :=
  { ArgumentSpec.option "port" ArgumentSpec.anyText none with
    required := true, env := some "ROBOLINK_PORT" }

/-- The speed of the line. -/
def baud : ArgumentSpec :=
  { ArgumentSpec.option "baud"
      (fun s => if (parseBaud? s).isNone then some .valueValidation else none) none with
    required := true, env := some "ROBOLINK_BAUD" }

/-- Flow control of the line. -/
def flowControl : ArgumentSpec :=
  { ArgumentSpec.option "flow-control" (readable FlowControl.parse) (some "none") with
    env := some "ROBOLINK_FLOW_CONTROL" }

/-- Parity of the line. -/
def parity : ArgumentSpec :=
  { ArgumentSpec.option "parity" (readable Parity.parse) (some "none") with
    env := some "ROBOLINK_PARITY" }

/-- Stop bits of the line. -/
def stopBits : ArgumentSpec :=
  { ArgumentSpec.option "stop-bits" (readable StopBits.parse) (some "1") with
    env := some "ROBOLINK_STOP_BITS" }

/-- How long a read waits for data. -/
def readTimeout : ArgumentSpec := .option "read-timeout" ArgumentSpec.anyText (some "100ms")

/-- The time between attempts to open the port again. -/
def reconnectInterval : ArgumentSpec :=
  .option "reconnect-interval" ArgumentSpec.anyText (some "1s")

/-- The pause of receiving and sending while the link is down. -/
def backoff : ArgumentSpec := .option "backoff" ArgumentSpec.anyText (some "1s")

/-- The time between commands. -/
def sendPeriod : ArgumentSpec := .option "send-period" ArgumentSpec.anyText (some "5ms")

/-- Whether command lines are left unread. -/
def noStdin : ArgumentSpec := .switch "no-stdin"

/-- The capture to decode. -/
def input : ArgumentSpec :=
  ⟨"input", .positional, none, fun s => if s = "" then some .invalidValue else none, true, none,
    none⟩

/-- Whether only the summary is printed. -/
def summaryOnly : ArgumentSpec := .switch "summary-only"

/-- Whether more than the version is printed. -/
def extended : ArgumentSpec := .switch "extended"

/-- The subcommands and their own arguments. -/
def subcommands : List (String × List ArgumentSpec) :=
  [("run", [port, baud, flowControl, parity, stopBits, readTimeout, reconnectInterval, backoff,
      sendPeriod, noStdin]),
    ("decode", [input, summaryOnly]), ("ports", []), ("version", [extended])]

/-- The names of all subcommands, the one that shows help included. -/
def subcommandNames : List String :=
  subcommands.map Prod.fst ++ ["help"]

/-- The command that the arguments of a subcommand ask for. -/
def commandOf (name : String) (s : ArgumentState) : Except UsageError Command :=
  if name = "run" then
    match parseBaud? (s.valueOr baud), FlowControl.parse (s.valueOr flowControl),
      Parity.parse (s.valueOr parity), StopBits.parse (s.valueOr stopBits) with
    | some speed, .ok flow, .ok parity, .ok stop =>
      .ok (.run ⟨s.valueOr port, speed, flow, parity, stop, s.valueOr readTimeout,
        s.valueOr reconnectInterval, s.valueOr backoff, s.valueOr sendPeriod, s.has noStdin.name⟩)
    | _, _, _, _ => .error .valueValidation
  else if name = "decode" then .ok (.decode (s.valueOr input) (s.has summaryOnly.name))
  else if name = "ports" then .ok .ports
  else .ok (.version (s.has extended.name))

/-- What the subcommand that shows help answers. -/
def helpAnswer : List String → UsageError
  | [] => .displayHelp
  | [name] => if subcommandNames.contains name then .displayHelp else .invalidSubcommand
  | _ => .invalidSubcommand

/-- Read all arguments of the program. -/
def parse (env : String → Option String) (args : List String) : Except UsageError Invocation := do
  let rootSpecs := global ++ [.version]
  let root ← readLevel rootSpecs subcommandNames .empty args
  match root.subcommand with
  | none =>
    let s ← finishLevel rootSpecs env root.state
    throw (if s.given.isEmpty then .displayHelpOnMissing else .missingSubcommand)
  | some (name, rest) =>
    if name = "help" then throw (helpAnswer rest)
    let specs := (subcommands.find? fun c => c.1 = name).elim [] Prod.snd ++ global
    let level ← readLevel specs [] .empty rest
    let s ← finishLevel specs env level.state
    let rootState ← finishLevel rootSpecs env root.state
    let command ← commandOf name s
    let format := (s.value? "format").orElse fun _ => rootState.value? "format"
    return ⟨format.bind OutputFormat.ofName?, command⟩

end Options

end ControllerLink
