/-
# Fields of a record

A record as a flat list of names and values: the members of its name-ordered
JSON document, a member of a nested object under its path with dots, and the
kind of the record left out.
-/
import ControllerLink.Json.Printer
import ControllerLink.Record.Telemetry

set_option autoImplicit false

namespace ControllerLink

namespace Report

/-- The name of a member of the object at a path. -/
def memberName (path key : String) : String :=
  if path = "" then key else path ++ "." ++ key

mutual

/-- The fields that a member's value gives, the member having the path `name`. -/
def flattenValue (name : String) : Json → List (String × String)
  | .obj members => flattenMembers name members
  | .str text => [(name, text)]
  | .null => [(name, Json.render .null)]
  | .bool b => [(name, Json.render (.bool b))]
  | .int n => [(name, Json.render (.int n))]
  | .single x => [(name, Json.render (.single x))]
  | .double bits => [(name, Json.render (.double bits))]
  | .arr items => [(name, Json.render (.arr items))]

/-- The fields of the object at a path; the kind of a record is not among them. -/
def flattenMembers (path : String) : List (String × Json) → List (String × String)
  | [] => []
  | (key, value) :: members =>
    (if path = "" ∧ key = "kind" then [] else flattenValue (memberName path key) value) ++
      flattenMembers path members

end

/-- The fields of a record. -/
def recordFields (t : Telemetry) : List (String × String) :=
  match t.toJson.inNameOrder with
  | .obj members => flattenMembers "" members
  | _ => []

end Report

end ControllerLink
