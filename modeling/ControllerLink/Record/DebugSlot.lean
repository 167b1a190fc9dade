/-
# Debug slots

A debug message has ten slots, each a value under a name of at most ten bytes.
A shorter name is filled up with zero bytes, and a name ends at the first of
them; an empty name marks an unused slot.
-/
import ControllerLink.Json.Value
import ControllerLink.Text.Utf8

set_option autoImplicit false

namespace ControllerLink

/-- One named value of a debug message. -/
structure DebugSlot where
  name : Vector UInt8 10
  type : UInt8
  value : Single
deriving DecidableEq, Repr

namespace DebugSlot

/-- Bytes of a slot. -/
def size : Nat := 15

/-- How many slots a debug message has. -/
def count : Nat := 10

/-- The first ten of `bytes`, zeros standing for missing ones. -/
def nameOfBytes (bytes : Bytes) : Vector UInt8 10 :=
  Vector.ofFn fun i => bytes.getD i 0

/-- A slot for a value, its name cut to ten bytes. -/
def make (name : String) (value : Single) : DebugSlot :=
  ⟨nameOfBytes (Text.Utf8.encode name.toList), 0, value⟩

/-- The bytes of the name, up to the first zero. -/
def nameBytes (s : DebugSlot) : Bytes :=
  s.name.toList.takeWhile (· != 0)

/-- The name as text. -/
def label (s : DebugSlot) : String :=
  String.ofList (Text.Utf8.decodeLossy s.nameBytes)

/-- The bytes of a slot. -/
def encode (s : DebugSlot) : Bytes :=
  s.name.toList ++ s.type :: Bytes.le32 s.value.bits

/-- The slot at the front of `bytes`. -/
def decode (bytes : Bytes) : DebugSlot :=
  ⟨nameOfBytes bytes, bytes.getD 10 0, ⟨Bytes.ofLE32 (bytes.drop 11)⟩⟩

/-- A slot as JSON. -/
def toJson (s : DebugSlot) : Json :=
  .obj [("name", .str s.label), ("type", .int s.type.toNat), ("value", .single s.value)]

/-- The bytes of all slots. -/
def encodeAll (slots : Vector DebugSlot 10) : Bytes :=
  slots.toList.flatMap encode

/-- The slots at the front of `bytes`. -/
def decodeAll (bytes : Bytes) : Vector DebugSlot 10 :=
  Vector.ofFn fun i => decode (bytes.drop (size * i))

end DebugSlot

end ControllerLink
