/-
# Readings

What the numbers of some records mean: the stage of the game, why a robot lost
hit points, which gain points it stands on, and its attitude as a quaternion.
-/
import ControllerLink.Record.Messages

set_option autoImplicit false

namespace ControllerLink

/-- The word with a given number, if there is one. -/
def wordAt (words : List String) (n : Nat) : Option String := words[n]?

/-- The stages of a game, by number. -/
def GameStatus.stages : List String :=
  ["not_started", "preparation", "self_checking", "countdown", "running", "game_over"]

/-- The stage of the game. -/
def GameStatus.stage? (r : GameStatus) : Option String :=
  wordAt GameStatus.stages r.gameProgress.toNat

/-- The causes of lost hit points, by number. -/
def RobotStatus.deductionCauses : List String :=
  ["armor_hit", "system_offline", "over_shoot_speed", "over_heat", "over_power", "armor_collision"]

/-- Why the robot lost hit points. -/
def RobotStatus.deductionCause? (r : RobotStatus) : Option String :=
  wordAt RobotStatus.deductionCauses r.hpDeductionReason.toNat

/-- The gain points of the field, by bit from the lowest. -/
def RfidStatus.points : List String :=
  ["base_gain_point", "circular_highland_gain_point", "enemy_circular_highland_gain_point",
    "friendly_r3_b3_gain_point", "enemy_r3_b3_gain_point", "friendly_r4_b4_gain_point",
    "enemy_r4_b4_gain_point", "energy_mechanism_gain_point",
    "friendly_fly_ramp_front_gain_point", "friendly_fly_ramp_back_gain_point",
    "enemy_fly_ramp_front_gain_point", "enemy_fly_ramp_back_gain_point",
    "friendly_outpost_gain_point", "friendly_healing_point", "friendly_sentry_patrol_area",
    "enemy_sentry_patrol_area", "friendly_big_resource_island", "enemy_big_resource_island",
    "friendly_exchange_area", "center_gain_point"]

/-- The gain points under the robot: the bit and the name of each. -/
def RfidStatus.active (r : RfidStatus) : List (Nat × String) :=
  (RfidStatus.points.zipIdx.filter fun p => r.gainPoints.toNat.testBit p.2).map
    fun p => (Nat.pow 2 p.2, p.1)

/-- The attitude as a quaternion `x, y, z, w`, turning by roll, pitch and yaw
about fixed axes. -/
def ImuReading.quaternion (r : ImuReading) : List Float32 :=
  let half (x : Single) : Float32 := x.toFloat32 * 0.5
  let sr := (half r.roll).sin
  let cr := (half r.roll).cos
  let sp := (half r.pitch).sin
  let cp := (half r.pitch).cos
  let sy := (half r.yaw).sin
  let cy := (half r.yaw).cos
  [sr * cp * cy - cr * sp * sy, cr * sp * cy + sr * cp * sy,
    cr * cp * sy - sr * sp * cy, cr * cp * cy + sr * sp * sy]

/-- A number in ten-thousandths, rounded with halves away from zero, unless it is not finite. -/
def tenThousandths? (x : Float32) : Option Int :=
  if x.isFinite then some ((x.toFloat * 10000).round.toInt64.toInt) else none

end ControllerLink
