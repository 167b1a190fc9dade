/-
# Lines of output

A record, or one value of a debug report, as it is written out: as one JSON
object, as a table, or as a line of fields.
-/
import ControllerLink.Report.Fields
import ControllerLink.Text.Table

set_option autoImplicit false

namespace ControllerLink

/-- The formats of output. -/
inductive OutputFormat where
  | json
  | table
  | pretty
deriving DecidableEq, Repr

namespace OutputFormat

/-- Every format. -/
def all : List OutputFormat := [json, table, pretty]

/-- The name of a format. -/
def name : OutputFormat → String
  | json => "json"
  | table => "table"
  | pretty => "pretty"

/-- The format with a name. -/
def ofName? (s : String) : Option OutputFormat :=
  all.find? fun f => f.name == s

end OutputFormat

namespace Report

/-- A point in time, given in milliseconds, as seconds with three places. -/
def timeText (millis : Nat) : String :=
  let places := Nat.toDigits 10 (millis % 1000)
  toString (millis / 1000) ++ "." ++
    String.ofList (List.replicate (3 - places.length) '0' ++ places)

/-- Fields as a line, after a first word. -/
def fieldLine (word : String) (fields : List (String × String)) : String :=
  " ".intercalate (word :: fields.map fun f => f.1 ++ "=" ++ f.2)

/-- Rows of a name and a value below a header. -/
def fieldTable (header value : String) (fields : List (String × String)) : String :=
  (Text.Table.mk [header, value] (fields.map fun f => [f.1, f.2])).render

/-- A record received at a given time. -/
def recordText (format : OutputFormat) (receivedAt : String) (t : Telemetry) : String :=
  match format with
  | .json => (Json.obj (("received_at", .str receivedAt) :: t.taggedMembers)).render
  | .table => fieldTable (t.kind.name.map Char.toUpper) "VALUE" (recordFields t)
  | .pretty => fieldLine t.kind.name (recordFields t)

/-- A named debug value received at a given time. -/
def debugText (format : OutputFormat) (receivedAt name : String) (value : Single) : String :=
  match format with
  | .json =>
    (Json.obj [("received_at", .str receivedAt), ("kind", .str "debug_value"),
      ("name", .str name), ("value", .single value)]).render
  | .table => fieldTable "DEBUG" "VALUE" [(name, value.text)]
  | .pretty => "debug " ++ name ++ "=" ++ value.text

end Report

end ControllerLink
