/-
# Telemetry records

One structure for every message that the controller sends, in the order in
which its fields lie on the wire.  Each has a layout, and `toValues` and
`ofValues` between the structure and the values of that layout.
-/
import ControllerLink.Record.Layout

set_option autoImplicit false

namespace ControllerLink

/-! ## DebugReport -/

/-- Ten named values that the controller shows for inspection. -/
structure DebugReport where
  timeStamp : UInt32
  packages : Vector DebugSlot 10
deriving DecidableEq, Repr

namespace DebugReport

/-- The fields of the record on the wire. -/
abbrev layout : Layout :=
  [("time_stamp", .u32), ("packages", .slots)]

/-- The field values of a record. -/
def toValues (r : DebugReport) : layout.Values :=
  (r.timeStamp, r.packages, ())

/-- The record with given field values. -/
def ofValues : layout.Values → DebugReport
  | (timeStamp, packages, ()) =>
    ⟨timeStamp, packages⟩

end DebugReport

/-! ## ImuReading -/

/-- Attitude and angular velocity. -/
structure ImuReading where
  timeStamp : UInt32
  yaw : Single
  pitch : Single
  roll : Single
  yawVelocity : Single
  pitchVelocity : Single
  rollVelocity : Single
deriving DecidableEq, Repr

namespace ImuReading

/-- The fields of the record on the wire. -/
abbrev layout : Layout :=
  [("time_stamp", .u32), ("yaw", .single), ("pitch", .single), ("roll", .single),
    ("yaw_vel", .single), ("pitch_vel", .single), ("roll_vel", .single)]

/-- The field values of a record. -/
def toValues (r : ImuReading) : layout.Values :=
  (r.timeStamp, r.yaw, r.pitch, r.roll, r.yawVelocity, r.pitchVelocity, r.rollVelocity, ())

/-- The record with given field values. -/
def ofValues : layout.Values → ImuReading
  | (timeStamp, yaw, pitch, roll, yawVelocity, pitchVelocity, rollVelocity, ()) =>
    ⟨timeStamp, yaw, pitch, roll, yawVelocity, pitchVelocity, rollVelocity⟩

end ImuReading

/-! ## FieldEvents -/

/-- State of the places on the field. -/
structure FieldEvents where
  timeStamp : UInt32
  supplyStationFront : UInt8
  supplyStationInternal : UInt8
  supplyZone : UInt8
  centerGainZone : UInt8
  smallEnergy : UInt8
  bigEnergy : UInt8
  circularHighland : UInt8
  trapezoidalHighland3 : UInt8
  trapezoidalHighland4 : UInt8
  baseShieldRemaining : UInt8
deriving DecidableEq, Repr

namespace FieldEvents

/-- The fields of the record on the wire. -/
abbrev layout : Layout :=
  [("time_stamp", .u32), ("supply_station_front", .u8), ("supply_station_internal", .u8),
    ("supply_zone", .u8), ("center_gain_zone", .u8), ("small_energy", .u8), ("big_energy", .u8),
    ("circular_highland", .u8), ("trapezoidal_highland_3", .u8), ("trapezoidal_highland_4", .u8),
    ("base_virtual_shield_remaining", .u8)]

/-- The field values of a record. -/
def toValues (r : FieldEvents) : layout.Values :=
  (r.timeStamp, r.supplyStationFront, r.supplyStationInternal, r.supplyZone, r.centerGainZone,
    r.smallEnergy, r.bigEnergy, r.circularHighland, r.trapezoidalHighland3, r.trapezoidalHighland4,
    r.baseShieldRemaining, ())

/-- The record with given field values. -/
def ofValues : layout.Values → FieldEvents
  | (timeStamp, supplyStationFront, supplyStationInternal, supplyZone, centerGainZone, smallEnergy,
      bigEnergy, circularHighland, trapezoidalHighland3, trapezoidalHighland4, baseShieldRemaining,
      ()) =>
    ⟨timeStamp, supplyStationFront, supplyStationInternal, supplyZone, centerGainZone, smallEnergy,
     bigEnergy, circularHighland, trapezoidalHighland3, trapezoidalHighland4, baseShieldRemaining⟩

end FieldEvents

/-! ## HitPoints -/

/-- Hit points of every robot and building of both sides. -/
structure HitPoints where
  timeStamp : UInt32
  redRobot1 : UInt16
  redRobot2 : UInt16
  redRobot3 : UInt16
  redRobot4 : UInt16
  redRobot5 : UInt16
  redRobot7 : UInt16
  redOutpost : UInt16
  redBase : UInt16
  blueRobot1 : UInt16
  blueRobot2 : UInt16
  blueRobot3 : UInt16
  blueRobot4 : UInt16
  blueRobot5 : UInt16
  blueRobot7 : UInt16
  blueOutpost : UInt16
  blueBase : UInt16
deriving DecidableEq, Repr

namespace HitPoints

/-- The fields of the record on the wire. -/
abbrev layout : Layout :=
  [("time_stamp", .u32), ("red_1_robot_hp", .u16), ("red_2_robot_hp", .u16),
    ("red_3_robot_hp", .u16), ("red_4_robot_hp", .u16), ("red_5_robot_hp", .u16),
    ("red_7_robot_hp", .u16), ("red_outpost_hp", .u16), ("red_base_hp", .u16),
    ("blue_1_robot_hp", .u16), ("blue_2_robot_hp", .u16), ("blue_3_robot_hp", .u16),
    ("blue_4_robot_hp", .u16), ("blue_5_robot_hp", .u16), ("blue_7_robot_hp", .u16),
    ("blue_outpost_hp", .u16), ("blue_base_hp", .u16)]

/-- The field values of a record. -/
def toValues (r : HitPoints) : layout.Values :=
  (r.timeStamp, r.redRobot1, r.redRobot2, r.redRobot3, r.redRobot4, r.redRobot5, r.redRobot7,
    r.redOutpost, r.redBase, r.blueRobot1, r.blueRobot2, r.blueRobot3, r.blueRobot4, r.blueRobot5,
    r.blueRobot7, r.blueOutpost, r.blueBase, ())

/-- The record with given field values. -/
def ofValues : layout.Values → HitPoints
  | (timeStamp, redRobot1, redRobot2, redRobot3, redRobot4, redRobot5, redRobot7, redOutpost,
      redBase, blueRobot1, blueRobot2, blueRobot3, blueRobot4, blueRobot5, blueRobot7, blueOutpost,
      blueBase, ()) =>
    ⟨timeStamp, redRobot1, redRobot2, redRobot3, redRobot4, redRobot5, redRobot7, redOutpost,
     redBase, blueRobot1, blueRobot2, blueRobot3, blueRobot4, blueRobot5, blueRobot7, blueOutpost,
     blueBase⟩

end HitPoints

/-! ## GameStatus -/

/-- Stage of the game and the time left in it. -/
structure GameStatus where
  timeStamp : UInt32
  gameProgress : UInt8
  stageRemainTime : UInt16
deriving DecidableEq, Repr

namespace GameStatus

/-- The fields of the record on the wire. -/
abbrev layout : Layout :=
  [("time_stamp", .u32), ("game_progress", .u8), ("stage_remain_time", .u16)]

/-- The field values of a record. -/
def toValues (r : GameStatus) : layout.Values :=
  (r.timeStamp, r.gameProgress, r.stageRemainTime, ())

/-- The record with given field values. -/
def ofValues : layout.Values → GameStatus
  | (timeStamp, gameProgress, stageRemainTime, ()) =>
    ⟨timeStamp, gameProgress, stageRemainTime⟩

end GameStatus

/-! ## RobotMotion -/

/-- Measured velocity of the chassis. -/
structure RobotMotion where
  timeStamp : UInt32
  vx : Single
  vy : Single
  wz : Single
deriving DecidableEq, Repr

namespace RobotMotion

/-- The fields of the record on the wire. -/
abbrev layout : Layout :=
  [("time_stamp", .u32), ("vx", .single), ("vy", .single), ("wz", .single)]

/-- The field values of a record. -/
def toValues (r : RobotMotion) : layout.Values :=
  (r.timeStamp, r.vx, r.vy, r.wz, ())

/-- The record with given field values. -/
def ofValues : layout.Values → RobotMotion
  | (timeStamp, vx, vy, wz, ()) =>
    ⟨timeStamp, vx, vy, wz⟩

end RobotMotion

/-! ## GroundPositions -/

/-- Positions of the ground robots of the own side. -/
structure GroundPositions where
  timeStamp : UInt32
  heroX : Single
  heroY : Single
  engineerX : Single
  engineerY : Single
  standard3X : Single
  standard3Y : Single
  standard4X : Single
  standard4Y : Single
  standard5X : Single
  standard5Y : Single
deriving DecidableEq, Repr

namespace GroundPositions

/-- The fields of the record on the wire. -/
abbrev layout : Layout :=
  [("time_stamp", .u32), ("hero_x", .single), ("hero_y", .single), ("engineer_x", .single),
    ("engineer_y", .single), ("standard_3_x", .single), ("standard_3_y", .single),
    ("standard_4_x", .single), ("standard_4_y", .single), ("standard_5_x", .single),
    ("standard_5_y", .single)]

/-- The field values of a record. -/
def toValues (r : GroundPositions) : layout.Values :=
  (r.timeStamp, r.heroX, r.heroY, r.engineerX, r.engineerY, r.standard3X, r.standard3Y,
    r.standard4X, r.standard4Y, r.standard5X, r.standard5Y, ())

/-- The record with given field values. -/
def ofValues : layout.Values → GroundPositions
  | (timeStamp, heroX, heroY, engineerX, engineerY, standard3X, standard3Y, standard4X, standard4Y,
      standard5X, standard5Y, ()) =>
    ⟨timeStamp, heroX, heroY, engineerX, engineerY, standard3X, standard3Y, standard4X, standard4Y,
     standard5X, standard5Y⟩

end GroundPositions

/-! ## RfidStatus -/

/-- Gain points under the robot, one bit each. -/
structure RfidStatus where
  timeStamp : UInt32
  gainPoints : UInt32
deriving DecidableEq, Repr

namespace RfidStatus

/-- The fields of the record on the wire. -/
abbrev layout : Layout :=
  [("time_stamp", .u32), ("gain_points", .u32)]

/-- The field values of a record. -/
def toValues (r : RfidStatus) : layout.Values :=
  (r.timeStamp, r.gainPoints, ())

/-- The record with given field values. -/
def ofValues : layout.Values → RfidStatus
  | (timeStamp, gainPoints, ()) =>
    ⟨timeStamp, gainPoints⟩

end RfidStatus

/-! ## RobotStatus -/

/-- Level, hit points, heat, position and supplies of the robot. -/
structure RobotStatus where
  timeStamp : UInt32
  robotId : UInt8
  robotLevel : UInt8
  currentHp : UInt16
  maximumHp : UInt16
  coolingValue : UInt16
  heatLimit : UInt16
  barrelHeat : UInt16
  positionX : Single
  positionY : Single
  positionAngle : Single
  armorId : UInt8
  hpDeductionReason : UInt8
  projectileAllowance : UInt16
  remainingGold : UInt16
deriving DecidableEq, Repr

namespace RobotStatus

/-- The fields of the record on the wire. -/
abbrev layout : Layout :=
  [("time_stamp", .u32), ("robot_id", .u8), ("robot_level", .u8), ("current_hp", .u16),
    ("maximum_hp", .u16), ("shooter_barrel_cooling_value", .u16),
    ("shooter_barrel_heat_limit", .u16), ("shooter_17mm_1_barrel_heat", .u16),
    ("robot_pos_x", .single), ("robot_pos_y", .single), ("robot_pos_angle", .single),
    ("armor_id", .u8), ("hp_deduction_reason", .u8), ("projectile_allowance_17mm_1", .u16),
    ("remaining_gold_coin", .u16)]

/-- The field values of a record. -/
def toValues (r : RobotStatus) : layout.Values :=
  (r.timeStamp, r.robotId, r.robotLevel, r.currentHp, r.maximumHp, r.coolingValue, r.heatLimit,
    r.barrelHeat, r.positionX, r.positionY, r.positionAngle, r.armorId, r.hpDeductionReason,
    r.projectileAllowance, r.remainingGold, ())

/-- The record with given field values. -/
def ofValues : layout.Values → RobotStatus
  | (timeStamp, robotId, robotLevel, currentHp, maximumHp, coolingValue, heatLimit, barrelHeat,
      positionX, positionY, positionAngle, armorId, hpDeductionReason, projectileAllowance,
      remainingGold, ()) =>
    ⟨timeStamp, robotId, robotLevel, currentHp, maximumHp, coolingValue, heatLimit, barrelHeat,
     positionX, positionY, positionAngle, armorId, hpDeductionReason, projectileAllowance,
     remainingGold⟩

end RobotStatus

/-! ## GimbalCommand -/

/-- Gimbal angles that the controller asks for. -/
structure GimbalCommand where
  timeStamp : UInt32
  yaw : Single
  pitch : Single
deriving DecidableEq, Repr

namespace GimbalCommand

/-- The fields of the record on the wire. -/
abbrev layout : Layout :=
  [("time_stamp", .u32), ("yaw", .single), ("pitch", .single)]

/-- The field values of a record. -/
def toValues (r : GimbalCommand) : layout.Values :=
  (r.timeStamp, r.yaw, r.pitch, ())

/-- The record with given field values. -/
def ofValues : layout.Values → GimbalCommand
  | (timeStamp, yaw, pitch, ()) =>
    ⟨timeStamp, yaw, pitch⟩

end GimbalCommand

/-! ## ShootCommand -/

/-- How many projectiles the controller asks for. -/
structure ShootCommand where
  timeStamp : UInt32
  projectileCount : UInt8
deriving DecidableEq, Repr

namespace ShootCommand

/-- The fields of the record on the wire. -/
abbrev layout : Layout :=
  [("time_stamp", .u32), ("projectile_num", .u8)]

/-- The field values of a record. -/
def toValues (r : ShootCommand) : layout.Values :=
  (r.timeStamp, r.projectileCount, ())

/-- The record with given field values. -/
def ofValues : layout.Values → ShootCommand
  | (timeStamp, projectileCount, ()) =>
    ⟨timeStamp, projectileCount⟩

end ShootCommand

end ControllerLink
