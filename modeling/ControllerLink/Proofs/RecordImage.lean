/-
# Records and their payloads

Every record of the catalog is read back from its own payload to the last bit,
whatever its numbers are.  The layouts decide this field by field: a field takes
as many bytes as its type says, and from these bytes it is read back.

A slot of a debug report has a fixed size, whatever the length of its name, so
that the slots are found again by counting (`DebugSlot.drop_flatMap_encode`). A
layout is a list of fields and its values are nested pairs; encoding and
decoding recurse over it in the same way, which makes the round trip an
induction on the layout, for all records at once
(`Layout.decode_encode_append`).
-/
import ControllerLink.Proofs.ByteStrings
import ControllerLink.Record.Telemetry
import Mathlib.Data.List.GetD

set_option autoImplicit false

namespace ControllerLink

/-! ## Debug slots -/

namespace DebugSlot

/-- A name is cut, or filled up with zeros, to ten bytes. Byte by byte: those that are there, and
zeros from their end on. -/
theorem toList_nameOfBytes_eq_resize (bytes : Bytes) :
    (nameOfBytes bytes).toList = bytes.resize 10 := by
  rw [nameOfBytes, Vector.toList_ofFn, Bytes.resize]
  apply List.ext_getElem
  · simp
    omega
  · intro i hi _
    rw [List.length_ofFn] at hi
    rw [List.getElem_ofFn, List.getElem_append]
    split
    · next hin =>
      have hshort : i < bytes.length := by
        rw [List.length_take] at hin
        omega
      exact (List.getD_eq_getElem bytes 0 hshort).trans List.getElem_take.symm
    · next hout =>
      have hlong : bytes.length ≤ i := by
        rw [List.length_take] at hout
        omega
      rw [List.getElem_replicate]
      exact List.getD_eq_default bytes 0 hlong

/-- A slot always has its full size, however short its name is. -/
theorem length_encode (s : DebugSlot) : s.encode.length = size := by
  simp [encode, Bytes.length_le32, size]

/-- A slot is read back from its own bytes. Name, type and value stand at fixed places. -/
theorem decode_encode_append (s : DebugSlot) (rest : Bytes) : decode (s.encode ++ rest) = s := by
  have hname : nameOfBytes (s.encode ++ rest) = s.name := by
    ext i hi
    simp [nameOfBytes, encode, List.getElem?_append]
  have htype : (s.encode ++ rest).getD 10 0 = s.type := by
    simp [encode]
  have hvalue : (s.encode ++ rest).drop 11 = Bytes.le32 s.value.bits ++ rest := by
    simp [encode, List.drop_append]
  rw [decode, hname, htype, hvalue, Bytes.ofLE32_le32_append]

theorem length_flatMap_encode (slots : List DebugSlot) :
    (slots.flatMap encode).length = size * slots.length := by
  induction slots with
  | nil => rfl
  | cons s slots ih =>
    rw [List.flatMap_cons, List.length_append, length_encode, ih, List.length_cons, Nat.mul_succ,
      Nat.add_comm]

theorem length_encodeAll (slots : Vector DebugSlot 10) :
    (encodeAll slots).length = size * count := by
  rw [encodeAll, length_flatMap_encode, Vector.length_toList, count]

/-- All slots have the same size, so those from the `i`-th on begin `i` sizes behind the first. -/
theorem drop_flatMap_encode (slots : List DebugSlot) (rest : Bytes) (i : Nat)
    (hi : i ≤ slots.length) :
    (slots.flatMap encode ++ rest).drop (size * i) = (slots.drop i).flatMap encode ++ rest := by
  induction i generalizing slots with
  | zero => rfl
  | succ i ih =>
    rcases slots with _ | ⟨s, slots⟩
    · exact absurd hi (by simp)
    · rw [Nat.mul_succ, Nat.add_comm, ← List.drop_drop, List.flatMap_cons, List.append_assoc,
        List.drop_left' s.length_encode, ih slots (Nat.le_of_succ_le_succ hi)]
      rfl

/-- The slots of a debug message are read back from their own bytes. The slot asked for stands first
behind all those before it. -/
theorem decodeAll_encodeAll_append (slots : Vector DebugSlot 10) (rest : Bytes) :
    decodeAll (encodeAll slots ++ rest) = slots := by
  ext i hi
  have hlen : i < slots.toList.length := by rwa [Vector.length_toList]
  have hdrop := drop_flatMap_encode slots.toList rest i (Nat.le_of_lt hlen)
  rw [List.drop_eq_getElem_cons hlen, List.flatMap_cons, List.append_assoc] at hdrop
  rw [decodeAll, Vector.getElem_ofFn, encodeAll, hdrop, decode_encode_append,
    Vector.getElem_toList]

end DebugSlot

/-! ## Layouts -/

namespace FieldType

/-- A field has the size of its type, whatever its value is. -/
theorem length_encode (t : FieldType) (v : t.Value) : (t.encode v).length = t.size := by
  cases t with
  | u8 | u16 | u32 | single | flag => rfl
  | slots => exact DebugSlot.length_encodeAll v

/-- A field is read back from its own bytes. -/
theorem decode_encode_append (t : FieldType) (v : t.Value) (rest : Bytes) :
    t.decode (t.encode v ++ rest) = v := by
  cases t with
  | u8 => rfl
  | u16 => exact Bytes.ofLE16_le16_append v rest
  | u32 => exact Bytes.ofLE32_le32_append v rest
  | single => exact congrArg Single.mk (Bytes.ofLE32_le32_append v.bits rest)
  | flag =>
    rcases (v : Bool) with _ | _
    · rfl
    · rfl
  | slots => exact DebugSlot.decodeAll_encodeAll_append v rest

end FieldType

namespace Layout

theorem length_encode (l : Layout) (v : l.Values) : (l.encode v).length = l.size := by
  induction l with
  | nil => rfl
  | cons field fields ih =>
    obtain ⟨value, values⟩ := v
    rw [encode, List.length_append, FieldType.length_encode, ih, size]

/-- The values of a record are read back from its own bytes, whatever stands behind them. -/
theorem decode_encode_append (l : Layout) (v : l.Values) (rest : Bytes) :
    l.decode (l.encode v ++ rest) = v := by
  induction l with
  | nil => rfl
  | cons field fields ih =>
    obtain ⟨value, values⟩ := v
    have hfield := field.2.decode_encode_append value (encode fields values ++ rest)
    have hrest : (field.2.encode value ++ (encode fields values ++ rest)).drop field.2.size =
        encode fields values ++ rest := List.drop_left' (field.2.length_encode value)
    rw [encode, List.append_assoc, decode, hfield, hrest, ih values]

/-- **What a row of fields has written it reads back**, field by field. -/
theorem decode_encode (l : Layout) (v : l.Values) : l.decode (l.encode v) = v := by
  have h := l.decode_encode_append v []
  rwa [List.append_nil] at h

end Layout

/-! ## The catalog -/

/-- The ids of the catalog tell its kinds apart. -/
theorem MessageKind.ofId?_id (k : MessageKind) : ofId? k.id = some k := by
  cases k <;> rfl

namespace Telemetry

theorem length_encode (t : Telemetry) : t.encode.length = t.kind.payloadSize :=
  t.kind.layout.length_encode t.values

/-- **A record is read back from its own payload**, to the last bit. -/
theorem decode_encode (t : Telemetry) : decode t.kind t.encode = .ok t := by
  rw [decode, if_pos t.length_encode, encode, Layout.decode_encode, ofValues_values]

end Telemetry

end ControllerLink
