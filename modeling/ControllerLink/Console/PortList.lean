/-
# Lists of ports

The serial ports of a machine as they are listed.
-/
import ControllerLink.Report.Format

set_option autoImplicit false

namespace ControllerLink

/-- A port of the machine. -/
structure PortEntry where
  name : String
  kind : String
  description : Option String
deriving DecidableEq, Repr

namespace PortEntry

/-- A port as JSON. -/
def toJson (p : PortEntry) : Json :=
  .obj [("name", .str p.name), ("kind", .str p.kind),
    ("description", p.description.elim .null .str)]

/-- A port as a line. -/
def line (p : PortEntry) : String :=
  p.name ++ " (" ++ p.kind ++ ")" ++ p.description.elim "" (" " ++ ·)

/-- A list of ports as it is written out, line feeds included. -/
def listText (ports : List PortEntry) : OutputFormat → String
  | .json => (Json.arr (ports.map toJson)).renderIndented 0 ++ "\n"
  | .table =>
    (Text.Table.mk ["PORT", "TYPE", "DESCRIPTION"]
      (ports.map fun p => [p.name, p.kind, p.description.getD ""])).render ++ "\n"
  | .pretty =>
    if ports.isEmpty then "no serial ports found\n"
    else String.join (ports.map fun p => p.line ++ "\n")

end PortEntry

end ControllerLink
