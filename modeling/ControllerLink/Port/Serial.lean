/-
# Serial ports

A serial port with checked settings.  It starts closed; a closed port refuses
to be read or written, and a port without a device cannot be opened.
-/
import ControllerLink.Port.Settings

set_option autoImplicit false

namespace ControllerLink

/-- A serial port. -/
structure SerialPort where
  settings : SerialSettings
  isOpen : Bool
deriving DecidableEq, Repr

namespace SerialPort

/-- A closed port, if its settings can be used. -/
def make (s : SerialSettings) : Except PortError SerialPort := do
  s.validate
  if s.stopBits = .oneAndHalf then
    throw (.unsupported "1.5 stop bits are not supported by the serial backend")
  return ⟨s, false⟩

/-- The name of a port in log lines. -/
def name (p : SerialPort) : String := p.settings.port

/-- Open a port for which there is no device. -/
def openWithoutDevice (p : SerialPort) : Except PortError SerialPort :=
  .error (.openFailed p.name .noDevice "No such file or directory")

/-- Reading from or writing to a closed port. -/
def useClosed (p : SerialPort) : Except PortError Unit :=
  if p.isOpen then .ok () else .error .notOpen

/-- A port as shown when it is inspected. -/
def text (p : SerialPort) : String :=
  "SerialTransport \x7b config: " ++ p.settings.text ++ ", open: " ++
    (if p.isOpen then "true" else "false") ++ " \x7d"

end SerialPort

end ControllerLink
