/-
# The command record

The one record that the host sends: velocity of the chassis, posture of the
chassis, angles of the gimbal, and the shooter.
-/
import ControllerLink.Packet.Error
import ControllerLink.Record.Layout

set_option autoImplicit false

namespace ControllerLink

/-- What the controller is asked to do. -/
structure RobotCommand where
  timeStamp : UInt32
  vx : Single
  vy : Single
  wz : Single
  chassisYaw : Single
  chassisPitch : Single
  chassisRoll : Single
  legLength : Single
  gimbalYaw : Single
  gimbalPitch : Single
  fire : Bool
  frictionOn : Bool
deriving DecidableEq, Repr

namespace RobotCommand

/-- The message id of a command. -/
def id : UInt8 := 0x01

/-- The fields of a command on the wire. -/
abbrev layout : Layout :=
  [("time_stamp", .u32), ("vx", .single), ("vy", .single), ("wz", .single),
    ("chassis_yaw", .single), ("chassis_pitch", .single), ("chassis_roll", .single),
    ("chassis_leg_length", .single), ("gimbal_yaw", .single), ("gimbal_pitch", .single),
    ("fire", .flag), ("fric_on", .flag)]

/-- The command with all numbers zero and the shooter off. -/
def idle : RobotCommand :=
  ⟨0, ⟨0⟩, ⟨0⟩, ⟨0⟩, ⟨0⟩, ⟨0⟩, ⟨0⟩, ⟨0⟩, ⟨0⟩, ⟨0⟩, false, false⟩

/-- The field values of a command. -/
def toValues (c : RobotCommand) : layout.Values :=
  (c.timeStamp, c.vx, c.vy, c.wz, c.chassisYaw, c.chassisPitch, c.chassisRoll, c.legLength,
    c.gimbalYaw, c.gimbalPitch, c.fire, c.frictionOn, ())

/-- The command with given field values. -/
def ofValues : layout.Values → RobotCommand
  | (timeStamp, vx, vy, wz, chassisYaw, chassisPitch, chassisRoll, legLength, gimbalYaw,
      gimbalPitch, fire, frictionOn, ()) =>
    ⟨timeStamp, vx, vy, wz, chassisYaw, chassisPitch, chassisRoll, legLength, gimbalYaw,
      gimbalPitch, fire, frictionOn⟩

theorem ofValues_toValues (c : RobotCommand) : ofValues c.toValues = c := rfl

theorem toValues_ofValues (v : layout.Values) : (ofValues v).toValues = v := rfl

/-- The payload bytes of a command. -/
def encode (c : RobotCommand) : Bytes :=
  layout.encode c.toValues

/-- The command in a payload, which must have exactly the size of one. -/
def decode (payload : Bytes) : Except PacketError RobotCommand :=
  if payload.length = layout.size then .ok (ofValues (layout.decode payload))
  else .error (.malformedPayload id layout.size payload.length)

/-- A command as JSON, grouped by what it acts on. -/
def toJson (c : RobotCommand) : Json :=
  .obj
    [("time_stamp", .int c.timeStamp.toNat),
      ("speed", .obj [("vx", .single c.vx), ("vy", .single c.vy), ("wz", .single c.wz)]),
      ("chassis", .obj [("yaw", .single c.chassisYaw), ("pitch", .single c.chassisPitch),
        ("roll", .single c.chassisRoll), ("leg_length", .single c.legLength)]),
      ("gimbal", .obj [("yaw", .single c.gimbalYaw), ("pitch", .single c.gimbalPitch)]),
      ("shoot", .obj [("fire", .bool c.fire), ("fric_on", .bool c.frictionOn)])]

end RobotCommand

end ControllerLink
