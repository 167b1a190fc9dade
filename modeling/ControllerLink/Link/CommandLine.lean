/-
# Command lines

One line of input changes some fields of the command record.  It is a JSON
object with the fields to change, or a JSON array with a value for every field
in order; `null` leaves a field as it is.  A line that is not understood changes
nothing.
-/
import ControllerLink.Json.Token
import ControllerLink.Record.Command
import ControllerLink.Text.Blank

set_option autoImplicit false

namespace ControllerLink

/-- The fields of a command that hold numbers. -/
inductive NumberField where
  | vx
  | vy
  | wz
  | chassisYaw
  | chassisPitch
  | chassisRoll
  | legLength
  | gimbalYaw
  | gimbalPitch
deriving DecidableEq, Repr

/-- The fields of a command that are on or off. -/
inductive FlagField where
  | fire
  | frictionOn
deriving DecidableEq, Repr

/-- The fields of a command that a line can change. -/
inductive CommandField where
  | number (f : NumberField)
  | flag (f : FlagField)
deriving DecidableEq, Repr

namespace CommandField

/-- Every field, in order. -/
def all : List CommandField :=
  [number .vx, number .vy, number .wz, number .chassisYaw, number .chassisPitch,
    number .chassisRoll, number .legLength, number .gimbalYaw, number .gimbalPitch,
    flag .fire, flag .frictionOn]

/-- The name of a field. -/
def name : CommandField → String
  | number .vx => "vx"
  | number .vy => "vy"
  | number .wz => "wz"
  | number .chassisYaw => "chassis_yaw"
  | number .chassisPitch => "chassis_pitch"
  | number .chassisRoll => "chassis_roll"
  | number .legLength => "chassis_leg_length"
  | number .gimbalYaw => "gimbal_yaw"
  | number .gimbalPitch => "gimbal_pitch"
  | flag .fire => "fire"
  | flag .frictionOn => "fric_on"

/-- The field with a name. -/
def ofName? (s : String) : Option CommandField :=
  all.find? fun f => f.name == s

end CommandField

/-- A change of one field. -/
inductive Assignment where
  | number (f : NumberField) (x : Single)
  | flag (f : FlagField) (b : Bool)
deriving DecidableEq, Repr

namespace RobotCommand

/-- Change a number. -/
def setNumber (c : RobotCommand) (x : Single) : NumberField → RobotCommand
  | .vx => { c with vx := x }
  | .vy => { c with vy := x }
  | .wz => { c with wz := x }
  | .chassisYaw => { c with chassisYaw := x }
  | .chassisPitch => { c with chassisPitch := x }
  | .chassisRoll => { c with chassisRoll := x }
  | .legLength => { c with legLength := x }
  | .gimbalYaw => { c with gimbalYaw := x }
  | .gimbalPitch => { c with gimbalPitch := x }

/-- Switch something on or off. -/
def setFlag (c : RobotCommand) (b : Bool) : FlagField → RobotCommand
  | .fire => { c with fire := b }
  | .frictionOn => { c with frictionOn := b }

/-- Make one change. -/
def assign (c : RobotCommand) : Assignment → RobotCommand
  | .number f x => c.setNumber x f
  | .flag f b => c.setFlag b f

/-- Make several changes. -/
def assignAll (c : RobotCommand) (changes : List Assignment) : RobotCommand :=
  changes.foldl assign c

/-- Change the velocity. -/
def setVelocity (c : RobotCommand) (vx vy wz : Single) : RobotCommand :=
  { c with vx, vy, wz }

/-- Change the posture of the chassis. -/
def setChassis (c : RobotCommand) (yaw pitch roll legLength : Single) : RobotCommand :=
  { c with chassisYaw := yaw, chassisPitch := pitch, chassisRoll := roll, legLength }

/-- Change the angles of the gimbal. -/
def setGimbal (c : RobotCommand) (yaw pitch : Single) : RobotCommand :=
  { c with gimbalYaw := yaw, gimbalPitch := pitch }

/-- Change the shooter. -/
def setShooter (c : RobotCommand) (fire frictionOn : Bool) : RobotCommand :=
  { c with fire, frictionOn }

end RobotCommand

namespace CommandLine

open Json (Token)

/-- A value on a command line: a token that is no punctuation. -/
def isValue : Token → Bool
  | .null | .bool _ | .number _ | .str _ => true
  | _ => false

/-- The members of an object after its opening brace or a comma. -/
def scanMembers : List Token → Option (List (String × Token))
  | .str name :: .colon :: value :: .comma :: rest =>
    if isValue value then (scanMembers rest).map ((name, value) :: ·) else none
  | [.str name, .colon, value, .rightBrace] =>
    if isValue value then some [(name, value)] else none
  | _ => none

/-- The items of an array after its opening bracket or a comma. -/
def scanItems : List Token → Option (List Token)
  | value :: .comma :: rest =>
    if isValue value then (scanItems rest).map (value :: ·) else none
  | [value, .rightBracket] => if isValue value then some [value] else none
  | _ => none

/-- The change that a value makes to a field: none for `null`. -/
def change? : CommandField → Token → Option (List Assignment)
  | _, .null => some []
  | .number f, .number n => some [.number f n.toSingle]
  | .flag f, .bool b => some [.flag f b]
  | _, _ => none

/-- The fields that the members of an object name, with their values. -/
def fieldsOfMembers (members : List (String × Token)) : Option (List (CommandField × Token)) :=
  members.mapM fun m => (CommandField.ofName? m.1).map fun f => (f, m.2)

/-- The fields and values of a line: no field comes twice, and an array has a value for each. -/
def fieldsOfTokens : List Token → Option (List (CommandField × Token))
  | [.leftBrace, .rightBrace] => some []
  | .leftBrace :: rest => do
    let fields ← fieldsOfMembers (← scanMembers rest)
    if (fields.map Prod.fst).Nodup then some fields else none
  | .leftBracket :: rest => do
    let items ← scanItems rest
    if items.length = CommandField.all.length then some (CommandField.all.zip items) else none
  | _ => none

/-- The changes that a line without blanks at its ends asks for. -/
def changes? (cs : List Char) : Option (List Assignment) := do
  let fields ← fieldsOfTokens (← Token.scan cs)
  let changes ← fields.mapM fun p => change? p.1 p.2
  return changes.flatten

/-- Read a line and make the changes it asks for; the answer tells whether it was understood. -/
def apply (line : String) (c : RobotCommand) : Bool × RobotCommand :=
  match changes? (Text.trimChars line.toList) with
  | some changes => (true, c.assignAll changes)
  | none => (false, c)

end CommandLine

end ControllerLink
