/-
# Record layouts

A record is a row of named fields, packed without gaps and with the low byte
of each number first.  A layout lists the names and types of the fields; from
it follow the size of the record, its bytes, and its members as JSON.
-/
import ControllerLink.Record.DebugSlot

set_option autoImplicit false

namespace ControllerLink

/-- The types of fields. -/
inductive FieldType where
  | u8
  | u16
  | u32
  | single
  /-- A byte that is zero or not. -/
  | flag
  /-- The slots of a debug message. -/
  | slots
deriving DecidableEq, Repr

namespace FieldType

/-- The values of a field. -/
abbrev Value : FieldType → Type
  | u8 => UInt8
  | u16 => UInt16
  | u32 => UInt32
  | single => Single
  | flag => Bool
  | slots => Vector DebugSlot 10

/-- Bytes of a field. -/
def size : FieldType → Nat
  | u8 => 1
  | u16 => 2
  | u32 => 4
  | single => 4
  | flag => 1
  | slots => DebugSlot.size * DebugSlot.count

/-- The bytes of a field. -/
def encode : (t : FieldType) → t.Value → Bytes
  | u8, (n : UInt8) => [n]
  | u16, (n : UInt16) => Bytes.le16 n
  | u32, (n : UInt32) => Bytes.le32 n
  | single, (x : Single) => Bytes.le32 x.bits
  | flag, (b : Bool) => [if b then 1 else 0]
  | slots, (s : Vector DebugSlot 10) => DebugSlot.encodeAll s

/-- The field at the front of `bytes`. -/
def decode : (t : FieldType) → Bytes → t.Value
  | u8, bytes => bytes.headD 0
  | u16, bytes => Bytes.ofLE16 bytes
  | u32, bytes => Bytes.ofLE32 bytes
  | single, bytes => (⟨Bytes.ofLE32 bytes⟩ : Single)
  | flag, bytes => bytes.headD 0 != 0
  | slots, bytes => DebugSlot.decodeAll bytes

/-- A field as JSON. -/
def toJson : (t : FieldType) → t.Value → Json
  | u8, (n : UInt8) => .int n.toNat
  | u16, (n : UInt16) => .int n.toNat
  | u32, (n : UInt32) => .int n.toNat
  | single, (x : Single) => .single x
  | flag, (b : Bool) => .bool b
  | slots, (s : Vector DebugSlot 10) => .arr (s.toList.map DebugSlot.toJson)

end FieldType

/-- The names and types of the fields of a record, in order. -/
abbrev Layout := List (String × FieldType)

namespace Layout

/-- The field values of a record. -/
abbrev Values : Layout → Type
  | [] => Unit
  | (_, t) :: fields => t.Value × Values fields

/-- Bytes of a record. -/
def size : Layout → Nat
  | [] => 0
  | (_, t) :: fields => t.size + size fields

/-- The bytes of a record. -/
def encode : (l : Layout) → l.Values → Bytes
  | [], () => []
  | (_, t) :: fields, (value, values) => t.encode value ++ encode fields values

/-- The record at the front of `bytes`. -/
def decode : (l : Layout) → Bytes → l.Values
  | [], _ => ()
  | (_, t) :: fields, bytes => (t.decode bytes, decode fields (bytes.drop t.size))

/-- The members of a record as JSON. -/
def members : (l : Layout) → l.Values → List (String × Json)
  | [], () => []
  | (name, t) :: fields, (value, values) => (name, t.toJson value) :: members fields values

end Layout

end ControllerLink
