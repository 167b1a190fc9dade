/-
# The catalog and its bytes

Every payload of the right size is the payload of exactly one record: what is
read from it is written back byte by byte.  Only a flag forgets something, since
every byte but zero reads as set and is written back as one; no record of the
controller has a flag, and a command has two, at its end.

The layout of the records is written down a second time, as rows of numbers
that name their fields one by one, and the payloads are the bytes of these rows.

Reading and writing are inverse in two directions that differ in what they ask
of their input.  From a record to its bytes and back nothing is lost
(`decode_encode` of the layouts).  From bytes to a record and back the bytes
have to be as many as the layout has, and flags come back in their normal form
(`Layout.normal`).  Both are proved by going along a layout field by field, so
that no record has a proof of its own.
-/
import ControllerLink.Proofs.Sending
import Mathlib.Algebra.GroupWithZero.Nat

set_option autoImplicit false

namespace ControllerLink

/-! ## Fields and the bytes they are read from -/

namespace DebugSlot

/-- A name of ten bytes that are all there is these bytes. -/
theorem toList_nameOfBytes (bytes : Bytes) (h : 10 ≤ bytes.length) :
    (nameOfBytes bytes).toList = bytes.take 10 := by
  rw [toList_nameOfBytes_eq_resize, Bytes.resize, Nat.sub_eq_zero_of_le h, List.replicate_zero,
    List.append_nil]

/-- The name, the type and the value of a slot are written back as they were read. -/
theorem encode_decode (bytes : Bytes) (h : size ≤ bytes.length) :
    (decode bytes).encode = bytes.take size := by
  have hname := toList_nameOfBytes bytes (Nat.le_trans (by decide) h)
  -- Behind the name stand five more bytes: the type and the number.
  obtain ⟨type, a, b, c, d, rest, hdrop⟩ :
      ∃ type a b c d rest, bytes.drop 10 = type :: a :: b :: c :: d :: rest := by
    have hlen : 5 ≤ (bytes.drop 10).length := by
      rw [List.length_drop]
      exact Nat.le_sub_of_add_le h
    match bytes.drop 10, hlen with
    | type :: a :: b :: c :: d :: rest, _ => exact ⟨type, a, b, c, d, rest, rfl⟩
  have htype : bytes.getD 10 0 = type := by
    rw [List.getD_eq_getElem?_getD, ← List.head?_drop, hdrop]
    rfl
  have hvalue : bytes.drop 11 = a :: b :: c :: d :: rest := by
    rw [← List.drop_drop (i := 1) (j := 10), hdrop]
    rfl
  calc (decode bytes).encode
    _ = (nameOfBytes bytes).toList ++
          bytes.getD 10 0 :: Bytes.le32 (Bytes.ofLE32 (bytes.drop 11)) := rfl
    _ = bytes.take 10 ++ [type, a, b, c, d] := by rw [hname, htype, hvalue, Bytes.le32_ofLE32]
    _ = bytes.take 10 ++ (bytes.drop 10).take 5 := by rw [hdrop]; rfl
    _ = bytes.take size := List.take_add.symm

/-- The slots from the `i`-th on are written back as they were read. -/
theorem encodeAll_decodeAll (bytes : Bytes) (h : size * count ≤ bytes.length) :
    encodeAll (decodeAll bytes) = bytes.take (size * count) := by
  have hslots : ∀ n ≤ count,
      (List.ofFn fun i : Fin n => decode (bytes.drop (size * i))).flatMap encode =
        bytes.take (size * n) := by
    intro n hn
    -- Slot by slot from the front; the last one is cut off what the others have left.
    induction n with
    | zero => rfl
    | succ n ih =>
      have hroom : size ≤ (bytes.drop (size * n)).length := by
        have hlast : size * (n + 1) ≤ size * count := Nat.mul_le_mul_left _ hn
        rw [Nat.mul_succ] at hlast
        rw [List.length_drop]
        omega
      have hfront := ih (Nat.le_of_succ_le hn)
      rw [List.ofFn_succ_last, List.flatMap_append, List.flatMap_singleton, Nat.mul_succ,
        List.take_add, ← encode_decode _ hroom, ← hfront]
      rfl
  rw [encodeAll, decodeAll, Vector.toList_ofFn]
  exact hslots count (Nat.le_refl _)

end DebugSlot

/-! ## Records and the bytes they are read from -/

namespace FieldType

/-- The bytes that a field read from `bytes` is written as: those at the front, but one for every
flag that is not zero. -/
def normal : FieldType → Bytes → Bytes
  | flag, bytes => (bytes.take 1).map fun b => if b = 0 then 0 else 1
  | t, bytes => bytes.take t.size

/-- A field writes back the bytes that it was read from, up to the value of a flag. There is one
case for each type of field, and its bytes are there to be named. -/
theorem encode_decode (t : FieldType) (bytes : Bytes) (h : t.size ≤ bytes.length) :
    t.encode (t.decode bytes) = t.normal bytes := by
  cases t with
  | u8 =>
    match bytes, h with
    | a :: _, _ => rfl
  | u16 =>
    match bytes, h with
    | a :: b :: _, _ => exact Bytes.le16_join16 a b
  | u32 | single =>
    match bytes, h with
    | a :: b :: c :: d :: rest, _ => exact Bytes.le32_ofLE32 a b c d rest
  | flag =>
    match bytes, h with
    | a :: rest, _ =>
      by_cases ha : a = 0
      · subst ha
        rfl
      · simp [encode, decode, normal, ha]
  | slots => exact DebugSlot.encodeAll_decodeAll bytes h

/-- All fields but flags write back their bytes as they were. -/
theorem normal_of_ne_flag (t : FieldType) (bytes : Bytes) (h : t ≠ flag) :
    t.normal bytes = bytes.take t.size := by
  cases t with
  | flag => exact absurd rfl h
  | u8 | u16 | u32 | single | slots => rfl

end FieldType

namespace Layout

/-- The bytes that a record read from `bytes` is written as. -/
def normal : Layout → Bytes → Bytes
  | [], _ => []
  | (_, t) :: fields, bytes => t.normal bytes ++ normal fields (bytes.drop t.size)

/-- **A record is written back as it was read**, up to the flags in it. -/
theorem encode_decode (l : Layout) (bytes : Bytes) (h : l.size ≤ bytes.length) :
    l.encode (l.decode bytes) = l.normal bytes := by
  induction l generalizing bytes with
  | nil => rfl
  | cons field fields ih =>
    have hfield : field.2.size ≤ bytes.length := Nat.le_trans (Nat.le_add_right _ _) h
    have hrest : size fields ≤ (bytes.drop field.2.size).length := by
      rw [List.length_drop]
      exact Nat.le_sub_of_add_le' h
    rw [decode, encode, normal, field.2.encode_decode bytes hfield, ih _ hrest]

/-- Without flags, a record is written back byte by byte. -/
theorem normal_of_flagless (l : Layout) (bytes : Bytes) (h : ∀ field ∈ l, field.2 ≠ .flag) :
    l.normal bytes = bytes.take l.size := by
  induction l generalizing bytes with
  | nil => rfl
  | cons field fields ih =>
    rw [normal, size, List.take_add, field.2.normal_of_ne_flag bytes (h field (.head _)),
      ih _ fun f hf => h f (.tail _ hf)]

theorem normal_append (l m : Layout) (bytes : Bytes) :
    normal (l ++ m) bytes = l.normal bytes ++ m.normal (bytes.drop l.size) := by
  induction l generalizing bytes with
  | nil => rfl
  | cons field fields ih =>
    rw [List.cons_append, normal, normal, ih, List.append_assoc, size, List.drop_drop]

end Layout

/-- No record of the controller has a flag. -/
theorem MessageKind.flagless (k : MessageKind) : ∀ field ∈ k.layout, field.2 ≠ .flag := by
  cases k <;> decide

/-! ## Rows of numbers

This second description shares no definition with the layouts: a reader can check a row against the
packet format without knowing how fields are encoded. -/

/-- A number in a row of numbers: how many bytes it takes there, and its value. -/
structure Cell where
  width : Nat
  value : Nat
deriving DecidableEq, Repr

namespace Cell

/-- The digits of the number to base 256, as many as it has bytes, lowest first. -/
def bytes (c : Cell) : Bytes :=
  (List.range c.width).map fun i => UInt8.ofNat (c.value / 256 ^ i)

/-- A number of one byte. -/
def u8 (n : UInt8) : Cell := ⟨1, n.toNat⟩

/-- A number of two bytes. -/
def u16 (n : UInt16) : Cell := ⟨2, n.toNat⟩

/-- A number of four bytes. -/
def u32 (n : UInt32) : Cell := ⟨4, n.toNat⟩

/-- A single-precision number, by its bit pattern. -/
def f32 (x : Single) : Cell := u32 x.bits

/-- A truth value, as one or zero. -/
def flag (b : Bool) : Cell := ⟨1, b.toNat⟩

theorem bytes_u8 (n : UInt8) : (u8 n).bytes = [n] := by
  simp [bytes, u8]

theorem bytes_u16 (n : UInt16) : (u16 n).bytes = Bytes.le16 n := by
  have hsnd : UInt8.ofNat (n.toNat / 256) = (n >>> 8).toUInt8 := by
    rw [← UInt8.toNat_inj]
    simp [Nat.shiftRight_eq_div_pow]
  simp [bytes, u16, List.range_succ, Bytes.le16, hsnd]

theorem bytes_u32 (n : UInt32) : (u32 n).bytes = Bytes.le32 n := by
  have hbyte : ∀ s : UInt32, s.toNat < 32 →
      UInt8.ofNat (n.toNat / 2 ^ s.toNat) = (n >>> s).toUInt8 := by
    intro s hs
    rw [← UInt8.toNat_inj]
    simp [Nat.shiftRight_eq_div_pow, Nat.mod_eq_of_lt hs]
  simp [bytes, u32, List.range_succ, Bytes.le32, ← hbyte 8 (by decide), ← hbyte 16 (by decide),
    ← hbyte 24 (by decide)]

theorem bytes_f32 (x : Single) : (f32 x).bytes = Bytes.le32 x.bits := bytes_u32 x.bits

theorem bytes_flag (b : Bool) : (flag b).bytes = [if b then 1 else 0] := by
  cases b <;> rfl

end Cell

/-- The numbers of a debug slot: the bytes of its name, its type and its value. -/
def DebugSlot.cells (s : DebugSlot) : List Cell :=
  s.name.toList.map Cell.u8 ++ [.u8 s.type, .f32 s.value]

/-- The numbers of a record, in the order in which they are sent. -/
def Telemetry.cells : Telemetry → List Cell
  | .debug r => .u32 r.timeStamp :: r.packages.toList.flatMap DebugSlot.cells
  | .imu r =>
    [.u32 r.timeStamp, .f32 r.yaw, .f32 r.pitch, .f32 r.roll, .f32 r.yawVelocity,
      .f32 r.pitchVelocity, .f32 r.rollVelocity]
  | .fieldEvents r =>
    [.u32 r.timeStamp, .u8 r.supplyStationFront, .u8 r.supplyStationInternal, .u8 r.supplyZone,
      .u8 r.centerGainZone, .u8 r.smallEnergy, .u8 r.bigEnergy, .u8 r.circularHighland,
      .u8 r.trapezoidalHighland3, .u8 r.trapezoidalHighland4, .u8 r.baseShieldRemaining]
  | .hitPoints r =>
    [.u32 r.timeStamp, .u16 r.redRobot1, .u16 r.redRobot2, .u16 r.redRobot3, .u16 r.redRobot4,
      .u16 r.redRobot5, .u16 r.redRobot7, .u16 r.redOutpost, .u16 r.redBase, .u16 r.blueRobot1,
      .u16 r.blueRobot2, .u16 r.blueRobot3, .u16 r.blueRobot4, .u16 r.blueRobot5,
      .u16 r.blueRobot7, .u16 r.blueOutpost, .u16 r.blueBase]
  | .gameStatus r => [.u32 r.timeStamp, .u8 r.gameProgress, .u16 r.stageRemainTime]
  | .robotMotion r => [.u32 r.timeStamp, .f32 r.vx, .f32 r.vy, .f32 r.wz]
  | .groundPositions r =>
    [.u32 r.timeStamp, .f32 r.heroX, .f32 r.heroY, .f32 r.engineerX, .f32 r.engineerY,
      .f32 r.standard3X, .f32 r.standard3Y, .f32 r.standard4X, .f32 r.standard4Y,
      .f32 r.standard5X, .f32 r.standard5Y]
  | .rfidStatus r => [.u32 r.timeStamp, .u32 r.gainPoints]
  | .robotStatus r =>
    [.u32 r.timeStamp, .u8 r.robotId, .u8 r.robotLevel, .u16 r.currentHp, .u16 r.maximumHp,
      .u16 r.coolingValue, .u16 r.heatLimit, .u16 r.barrelHeat, .f32 r.positionX,
      .f32 r.positionY, .f32 r.positionAngle, .u8 r.armorId, .u8 r.hpDeductionReason,
      .u16 r.projectileAllowance, .u16 r.remainingGold]
  | .gimbal r => [.u32 r.timeStamp, .f32 r.yaw, .f32 r.pitch]
  | .shoot r => [.u32 r.timeStamp, .u8 r.projectileCount]

/-- The numbers of a command, in the order in which they are sent. -/
def RobotCommand.cells (c : RobotCommand) : List Cell :=
  [.u32 c.timeStamp, .f32 c.vx, .f32 c.vy, .f32 c.wz, .f32 c.chassisYaw, .f32 c.chassisPitch,
    .f32 c.chassisRoll, .f32 c.legLength, .f32 c.gimbalYaw, .f32 c.gimbalPitch, .flag c.fire,
    .flag c.frictionOn]

/-- The numbers of a field. -/
def FieldType.cells : (t : FieldType) → t.Value → List Cell
  | u8, (n : UInt8) => [.u8 n]
  | u16, (n : UInt16) => [.u16 n]
  | u32, (n : UInt32) => [.u32 n]
  | single, (x : Single) => [.f32 x]
  | flag, (b : Bool) => [.flag b]
  | slots, (s : Vector DebugSlot 10) => s.toList.flatMap DebugSlot.cells

/-- The numbers of the fields of a layout. -/
def Layout.cells : (l : Layout) → l.Values → List Cell
  | [], () => []
  | (_, t) :: fields, (value, values) => t.cells value ++ cells fields values

theorem DebugSlot.encode_eq_cells (s : DebugSlot) : s.encode = s.cells.flatMap Cell.bytes := by
  have hname : ∀ bytes : Bytes, (bytes.map Cell.u8).flatMap Cell.bytes = bytes := by
    intro bytes
    rw [List.flatMap_map]
    simp [Cell.bytes_u8]
  rw [encode, cells, List.flatMap_append, hname, List.flatMap_cons, List.flatMap_singleton,
    Cell.bytes_u8, Cell.bytes_f32]
  rfl

theorem FieldType.encode_eq_cells (t : FieldType) (v : t.Value) :
    t.encode v = (t.cells v).flatMap Cell.bytes := by
  cases t with
  | u8 => rw [cells, List.flatMap_singleton, Cell.bytes_u8, encode]
  | u16 => rw [cells, List.flatMap_singleton, Cell.bytes_u16, encode]
  | u32 => rw [cells, List.flatMap_singleton, Cell.bytes_u32, encode]
  | single => rw [cells, List.flatMap_singleton, Cell.bytes_f32, encode]
  | flag => rw [cells, List.flatMap_singleton, Cell.bytes_flag, encode]
  | slots =>
    rw [cells, List.flatMap_assoc, encode, DebugSlot.encodeAll]
    exact List.flatMap_congr fun s _ => s.encode_eq_cells

/-- A record is the bytes of its numbers, one behind the other. -/
theorem Layout.encode_eq_cells (l : Layout) (v : l.Values) :
    l.encode v = (l.cells v).flatMap Cell.bytes := by
  induction l with
  | nil => rfl
  | cons field fields ih =>
    obtain ⟨value, values⟩ := v
    rw [encode, cells, List.flatMap_append, field.2.encode_eq_cells, ih]

/-- The payload of a record is the row of its numbers, kind by kind. -/
theorem Telemetry.encode_eq_cells (t : Telemetry) : t.encode = t.cells.flatMap Cell.bytes := by
  have hcells : t.kind.layout.cells t.values = t.cells := by
    cases t with
    | debug r => exact congrArg _ (List.append_nil _)
    | _ => rfl
  rw [encode, Layout.encode_eq_cells, hcells]

theorem RobotCommand.encode_eq_cells (c : RobotCommand) :
    c.encode = c.cells.flatMap Cell.bytes :=
  RobotCommand.layout.encode_eq_cells c.toValues

/-! ## The catalog -/

namespace Telemetry

/-- A record that is made from values is written as its fields write them. -/
theorem encode_ofValues (k : MessageKind) (v : k.layout.Values) :
    (ofValues k v).encode = k.layout.encode v := by
  cases k <;> rfl

/-- A payload of the size of a kind is the payload of a record of that kind. -/
theorem decode_of_length (k : MessageKind) (p : Bytes) (h : p.length = k.payloadSize) :
    ∃ t, decode k p = .ok t ∧ t.kind = k ∧ t.encode = p := by
  refine ⟨ofValues k (k.layout.decode p), if_pos h, kind_ofValues k _, ?_⟩
  rw [encode_ofValues, k.layout.encode_decode p (Nat.le_of_eq h.symm),
    Layout.normal_of_flagless _ _ k.flagless]
  exact List.take_of_length_le (Nat.le_of_eq h)

/-- A record is read from its own id and payload. -/
theorem ofMessage_encode (t : Telemetry) : ofMessage t.kind.id t.encode = .ok t := by
  rw [ofMessage, MessageKind.ofId?_id]
  exact t.decode_encode

/-- An id that no kind has is refused, with the id in the error. -/
theorem ofMessage_unknown (id : UInt8) (p : Bytes) (h : ∀ k : MessageKind, k.id ≠ id) :
    ofMessage id p = .error (.unknownKind id) := by
  have hnone : MessageKind.ofId? id = none := by
    rw [MessageKind.ofId?, List.find?_eq_none]
    intro k _ hk
    exact h k (eq_of_beq hk)
  rw [ofMessage, hnone]

end Telemetry

namespace RobotCommand

/-- A payload of the size of a command is that of a command, up to how its two flags are set. The
two flags are the last two bytes, and the last things of the layout. -/
theorem decode_of_length (p : Bytes) (h : p.length = 42) :
    ∃ c, decode p = .ok c ∧
      c.encode = p.take 40 ++ (p.drop 40).map fun b => if b = 0 then 0 else 1 := by
  refine ⟨ofValues (layout.decode p), if_pos h, ?_⟩
  have hsplit : layout = layout.take 10 ++ [("fire", .flag), ("fric_on", .flag)] := rfl
  have hfront : Layout.size (layout.take 10) = 40 := rfl
  obtain ⟨fire, friction, hlast⟩ : ∃ a b, p.drop 40 = [a, b] := by
    apply List.length_eq_two.1
    rw [List.length_drop, h]
  rw [encode, toValues_ofValues, layout.encode_decode p (Nat.le_of_eq h.symm), hsplit,
    Layout.normal_append, Layout.normal_of_flagless _ _ (by decide), hfront, hlast]
  rfl

end RobotCommand

/-- **The catalog codec is lossless.** The catalog has the eleven listed ids and sizes. A payload is
read as a record of a kind just when it has that kind's size, and the record is written back as the
same bytes; every record has the size of its kind, is the row of its numbers, and is read back from
its payload under its id, while an id outside of the catalog is refused. Commands are read back as
well, and a payload of a command is written back with its flags normalized. A payload is refused for
its size only. -/
theorem Telemetry.catalog_lossless :
    MessageKind.all.map (fun k => (k.id, k.payloadSize)) =
      [(0x01, 154), (0x02, 28), (0x04, 14), (0x06, 36), (0x07, 7), (0x08, 16), (0x09, 44),
        (0x0a, 8), (0x0b, 34), (0x0c, 12), (0x0d, 5)] ∧
    (∀ k : MessageKind, k ∈ MessageKind.all) ∧
    (∀ (k : MessageKind) (p : Bytes),
      (p.length = k.payloadSize ∧ ∃ t, decode k p = .ok t ∧ t.kind = k ∧ t.encode = p) ∨
      (p.length ≠ k.payloadSize ∧
        decode k p = .error (.malformedPayload k.id k.payloadSize p.length))) ∧
    (∀ t : Telemetry, t.encode.length = t.kind.payloadSize ∧
      t.encode = t.cells.flatMap Cell.bytes ∧ ofMessage t.kind.id t.encode = .ok t) ∧
    (∀ (id : UInt8) (p : Bytes), (∀ k : MessageKind, k.id ≠ id) →
      ofMessage id p = .error (.unknownKind id)) ∧
    (∀ c : RobotCommand, c.encode = c.cells.flatMap Cell.bytes ∧
      RobotCommand.decode c.encode = .ok c) ∧
    (∀ p : Bytes, p.length = 42 → ∃ c, RobotCommand.decode p = .ok c ∧
      c.encode = p.take 40 ++ (p.drop 40).map fun b => if b = 0 then 0 else 1) := by
  refine ⟨rfl, ?_, ?_, ?_, ofMessage_unknown, ?_, RobotCommand.decode_of_length⟩
  · intro k
    cases k <;> decide
  · intro k p
    by_cases h : p.length = k.payloadSize
    · exact .inl ⟨h, decode_of_length k p h⟩
    · exact .inr ⟨h, if_neg h⟩
  · intro t
    exact ⟨t.length_encode, t.encode_eq_cells, t.ofMessage_encode⟩
  · intro c
    exact ⟨c.encode_eq_cells, c.decode_encode⟩

/-- The catalog has no id 5, and a command whose flags are set by the bytes seven and zero is
written back with one and zero. -/
theorem Telemetry.catalog_lossless_flags :
    ofMessage 0x05 [1, 2, 3] = .error (.unknownKind 0x05) ∧
    ∃ c, RobotCommand.decode (List.replicate 40 0xff ++ [7, 0]) = .ok c ∧
      c.encode = List.replicate 40 0xff ++ [1, 0] := by
  obtain ⟨_, _, _, _, hunknown, _, hcommand⟩ := catalog_lossless
  constructor
  · apply hunknown
    intro k
    cases k <;> decide
  · obtain ⟨c, hdecode, hencode⟩ := hcommand (List.replicate 40 0xff ++ [7, 0]) (by decide)
    exact ⟨c, hdecode, hencode.trans (by decide)⟩

end ControllerLink
