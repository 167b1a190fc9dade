/-
# Telemetry

The catalog of the messages that the controller sends: each kind has an id, a
name and a layout, and a telemetry record is a record of one of the kinds.
-/
import ControllerLink.Packet.Error
import ControllerLink.Record.Messages

set_option autoImplicit false

namespace ControllerLink

/-- The kinds of messages from the controller. -/
inductive MessageKind where
  | debug
  | imu
  | fieldEvents
  | hitPoints
  | gameStatus
  | robotMotion
  | groundPositions
  | rfidStatus
  | robotStatus
  | gimbal
  | shoot
deriving DecidableEq, Repr, Inhabited

namespace MessageKind

/-- Every kind, by increasing id. -/
def all : List MessageKind :=
  [debug, imu, fieldEvents, hitPoints, gameStatus, robotMotion, groundPositions, rfidStatus,
    robotStatus, gimbal, shoot]

/-- The id in the header of a message. -/
def id : MessageKind → UInt8
  | debug => 0x01
  | imu => 0x02
  | fieldEvents => 0x04
  | hitPoints => 0x06
  | gameStatus => 0x07
  | robotMotion => 0x08
  | groundPositions => 0x09
  | rfidStatus => 0x0a
  | robotStatus => 0x0b
  | gimbal => 0x0c
  | shoot => 0x0d

/-- The name of a kind. -/
def name : MessageKind → String
  | debug => "debug"
  | imu => "imu"
  | fieldEvents => "event_data"
  | hitPoints => "all_robot_hp"
  | gameStatus => "game_status"
  | robotMotion => "robot_motion"
  | groundPositions => "ground_robot_position"
  | rfidStatus => "rfid_status"
  | robotStatus => "robot_status"
  | gimbal => "gimbal_cmd"
  | shoot => "shoot_cmd"

/-- The fields of a kind's record. -/
abbrev layout : MessageKind → Layout
  | debug => DebugReport.layout
  | imu => ImuReading.layout
  | fieldEvents => FieldEvents.layout
  | hitPoints => HitPoints.layout
  | gameStatus => GameStatus.layout
  | robotMotion => RobotMotion.layout
  | groundPositions => GroundPositions.layout
  | rfidStatus => RfidStatus.layout
  | robotStatus => RobotStatus.layout
  | gimbal => GimbalCommand.layout
  | shoot => ShootCommand.layout

/-- The payload size of a kind. -/
def payloadSize (k : MessageKind) : Nat := k.layout.size

/-- The kind with an id. -/
def ofId? (id : UInt8) : Option MessageKind :=
  all.find? fun k => k.id == id

/-- The kind with a name. -/
def ofName? (name : String) : Option MessageKind :=
  all.find? fun k => k.name == name

end MessageKind

/-- A record that the controller sent. -/
inductive Telemetry where
  | debug (r : DebugReport)
  | imu (r : ImuReading)
  | fieldEvents (r : FieldEvents)
  | hitPoints (r : HitPoints)
  | gameStatus (r : GameStatus)
  | robotMotion (r : RobotMotion)
  | groundPositions (r : GroundPositions)
  | rfidStatus (r : RfidStatus)
  | robotStatus (r : RobotStatus)
  | gimbal (r : GimbalCommand)
  | shoot (r : ShootCommand)
deriving DecidableEq, Repr

namespace Telemetry

/-- The kind of a record. -/
def kind : Telemetry → MessageKind
  | .debug _ => .debug
  | .imu _ => .imu
  | .fieldEvents _ => .fieldEvents
  | .hitPoints _ => .hitPoints
  | .gameStatus _ => .gameStatus
  | .robotMotion _ => .robotMotion
  | .groundPositions _ => .groundPositions
  | .rfidStatus _ => .rfidStatus
  | .robotStatus _ => .robotStatus
  | .gimbal _ => .gimbal
  | .shoot _ => .shoot

/-- The field values of a record. -/
def values : (t : Telemetry) → t.kind.layout.Values
  | .debug r => r.toValues
  | .imu r => r.toValues
  | .fieldEvents r => r.toValues
  | .hitPoints r => r.toValues
  | .gameStatus r => r.toValues
  | .robotMotion r => r.toValues
  | .groundPositions r => r.toValues
  | .rfidStatus r => r.toValues
  | .robotStatus r => r.toValues
  | .gimbal r => r.toValues
  | .shoot r => r.toValues

/-- The record of a kind with given field values. -/
def ofValues : (k : MessageKind) → k.layout.Values → Telemetry
  | .debug, v => .debug (DebugReport.ofValues v)
  | .imu, v => .imu (ImuReading.ofValues v)
  | .fieldEvents, v => .fieldEvents (FieldEvents.ofValues v)
  | .hitPoints, v => .hitPoints (HitPoints.ofValues v)
  | .gameStatus, v => .gameStatus (GameStatus.ofValues v)
  | .robotMotion, v => .robotMotion (RobotMotion.ofValues v)
  | .groundPositions, v => .groundPositions (GroundPositions.ofValues v)
  | .rfidStatus, v => .rfidStatus (RfidStatus.ofValues v)
  | .robotStatus, v => .robotStatus (RobotStatus.ofValues v)
  | .gimbal, v => .gimbal (GimbalCommand.ofValues v)
  | .shoot, v => .shoot (ShootCommand.ofValues v)

/-- The payload bytes of a record. -/
def encode (t : Telemetry) : Bytes :=
  t.kind.layout.encode t.values

/-- The record of a kind in a payload, which must have exactly that kind's size. -/
def decode (k : MessageKind) (payload : Bytes) : Except PacketError Telemetry :=
  if payload.length = k.payloadSize then .ok (ofValues k (k.layout.decode payload))
  else .error (.malformedPayload k.id k.payloadSize payload.length)

/-- The record in the payload of a message with a given id. -/
def ofMessage (id : UInt8) (payload : Bytes) : Except PacketError Telemetry :=
  match MessageKind.ofId? id with
  | some k => decode k payload
  | none => .error (.unknownKind id)

/-- The members of a record as JSON, in wire order. -/
def members (t : Telemetry) : List (String × Json) :=
  t.kind.layout.members t.values

/-- The members of a record, its kind first. -/
def taggedMembers (t : Telemetry) : List (String × Json) :=
  ("kind", .str t.kind.name) :: t.members

/-- A record as JSON, its kind first. -/
def toJson (t : Telemetry) : Json :=
  .obj t.taggedMembers

theorem kind_ofValues (k : MessageKind) (v : k.layout.Values) : (ofValues k v).kind = k := by
  cases k <;> rfl

theorem ofValues_values (t : Telemetry) : ofValues t.kind t.values = t := by
  cases t <;> rfl

end Telemetry

/-- The named values of a debug report; unused slots are left out. -/
def DebugReport.namedValues (r : DebugReport) : List (String × Single) :=
  (r.packages.toList.map fun slot => (slot.label, slot.value)).filter fun pair => pair.1 != ""

end ControllerLink
