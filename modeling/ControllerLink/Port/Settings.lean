/-
# Settings of a serial port

Speed, flow control, parity and stop bits, their spellings, and the checks that
settings must pass before a port is touched.
-/
import ControllerLink.Duration
import ControllerLink.Port.Error
import ControllerLink.Text.Quoted

set_option autoImplicit false

namespace ControllerLink

open Text (quoted trim)

/-- Flow control of a line. -/
inductive FlowControl where
  | none
  | hardware
  | software
deriving DecidableEq, Repr

/-- Parity of a line. -/
inductive Parity where
  | none
  | odd
  | even
deriving DecidableEq, Repr

/-- Stop bits of a line. -/
inductive StopBits where
  | one
  | oneAndHalf
  | two
deriving DecidableEq, Repr

namespace FlowControl

/-- The spelling of a setting. -/
def text : FlowControl → String
  | none => "none"
  | hardware => "hardware"
  | software => "software"

/-- The name of a setting. -/
def name : FlowControl → String
  | none => "None"
  | hardware => "Hardware"
  | software => "Software"

/-- Read a setting. -/
def parse (s : String) : Except PortError FlowControl :=
  if s = "none" then .ok none
  else if s = "hardware" then .ok hardware
  else if s = "software" then .ok software
  else .error (.invalidSettings
    s!"flow_control must be one of: none, hardware, software (got {quoted s})")

end FlowControl

namespace Parity

/-- The spelling of a setting. -/
def text : Parity → String
  | none => "none"
  | odd => "odd"
  | even => "even"

/-- The name of a setting. -/
def name : Parity → String
  | none => "None"
  | odd => "Odd"
  | even => "Even"

/-- Read a setting. -/
def parse (s : String) : Except PortError Parity :=
  if s = "none" then .ok none
  else if s = "odd" then .ok odd
  else if s = "even" then .ok even
  else .error (.invalidSettings s!"parity must be one of: none, odd, even (got {quoted s})")

end Parity

namespace StopBits

/-- The spelling of a setting. -/
def text : StopBits → String
  | one => "1"
  | oneAndHalf => "1.5"
  | two => "2"

/-- The name of a setting. -/
def name : StopBits → String
  | one => "One"
  | oneAndHalf => "OnePointFive"
  | two => "Two"

/-- Read a setting. -/
def parse (s : String) : Except PortError StopBits :=
  if s = "1" || s = "1.0" then .ok one
  else if s = "1.5" then .ok oneAndHalf
  else if s = "2" || s = "2.0" then .ok two
  else .error (.invalidSettings s!"stop_bits must be one of: 1, 1.5, 2 (got {quoted s})")

end StopBits

/-- Settings of a serial port. -/
structure SerialSettings where
  port : String
  baud : Nat
  flowControl : FlowControl
  parity : Parity
  stopBits : StopBits
  /-- How long a read waits for data. -/
  readTimeout : Duration
deriving DecidableEq, Repr

namespace SerialSettings

/-- Settings for a port and a speed: no flow control, no parity, one stop bit. -/
def make (port : String) (baud : Nat) : SerialSettings :=
  ⟨port, baud, .none, .none, .one, .ofMillis 100⟩

/-- Refuse settings that can never open a port. -/
def validate (s : SerialSettings) : Except PortError Unit :=
  if trim s.port = "" then .error (.invalidSettings "port must not be empty")
  else if s.baud = 0 then .error (.invalidSettings "baud_rate must be greater than zero")
  else if s.readTimeout.isZero then
    .error (.invalidSettings "read_timeout must be greater than zero")
  else .ok ()

/-- Settings as shown when a port is inspected. -/
def text (s : SerialSettings) : String :=
  "SerialConfig \x7b port: " ++ quoted s.port ++ ", baud_rate: " ++ toString s.baud ++
    ", flow_control: " ++ s.flowControl.name ++ ", parity: " ++ s.parity.name ++
    ", stop_bits: " ++ s.stopBits.name ++ ", read_timeout: " ++ s.readTimeout.text ++ " \x7d"

end SerialSettings

end ControllerLink
