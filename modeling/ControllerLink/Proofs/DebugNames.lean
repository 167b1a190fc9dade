/-
# Names of debug values

A slot keeps the first ten bytes of a name.  Its label is the longest part of the
name that fits, and a replacement character behind it when a character is cut at
the end of the ten bytes; names of up to ten bytes are kept as they are.  None
of this changes on the wire, and a report has a value under the label of every
slot whose name is not empty.

A name goes through three forms: its bytes, cut to the room of a slot and filled
up with zeros; the part before the first zero, which is what a reader takes; and
the text that these bytes are read as.  For a name without the zero character
the second is the cut name itself, so that only the cut can lose anything, and
`Text.Utf8.whole` says what it leaves.
-/
import ControllerLink.Proofs.CutTexts
import ControllerLink.Proofs.RecordImage

set_option autoImplicit false

namespace ControllerLink

/-! ## The longest part that fits -/

namespace Text

/-- That a text has `kept` for its longest beginning of at most `room` bytes. -/
structure LongestFit (room : Nat) (text kept : List Char) : Prop where
  begins : kept <+: text
  fits : (String.ofList kept).utf8ByteSize ≤ room
  longest : ∀ front, front <+: text → (String.ofList front).utf8ByteSize ≤ room → front <+: kept

/-- The size of a text is the number of bytes it is written as. -/
theorem utf8ByteSize_ofList (cs : List Char) :
    (String.ofList cs).utf8ByteSize = (Utf8.encode cs).length := by
  rw [← Utf8.length_encode_toList, String.toList_ofList]

/-- The characters that fit are the longest front of the text that does. -/
theorem longestFit_whole (room : Nat) (cs : List Char) :
    LongestFit room cs (Utf8.whole room cs) where
  begins := Utf8.whole_isPrefix room cs
  fits := by
    rw [utf8ByteSize_ofList]
    exact Utf8.length_encode_whole_le room cs
  longest front hfront hfits := by
    rw [utf8ByteSize_ofList] at hfits
    exact Utf8.prefix_whole hfront hfits

end Text

namespace DebugSlot

/-! ## Names in a slot -/

/-- The zeros behind a name without zeros are taken off again. -/
theorem takeWhile_append_zeros {bytes : Bytes} (h : (0 : UInt8) ∉ bytes) (n : Nat) :
    (bytes ++ List.replicate n 0).takeWhile (· != 0) = bytes := by
  rw [List.takeWhile_append_of_pos]
  · cases n <;> simp
  · intro b hb
    rw [bne_iff_ne]
    rintro rfl
    exact h hb

section

variable {name : String} (hname : '\x00' ∉ name.toList) (value : Single)
include hname

/-- A name without a zero character has no zero byte either. In UTF-8 a zero byte is the zero
character and nothing else. -/
theorem zero_notMem_encode : (0 : UInt8) ∉ Text.Utf8.encode name.toList := by
  have hcount := Text.Utf8.count_encode (show '\x00'.toNat < 0x80 by decide) name.toList
  rw [List.count_eq_zero_of_not_mem hname] at hcount
  exact List.count_eq_zero.1 hcount

/-- A slot keeps the first ten bytes of the name it is made with. -/
theorem nameBytes_make :
    (make name value).nameBytes = (Text.Utf8.encode name.toList).take 10 := by
  rw [nameBytes, make, toList_nameOfBytes_eq_resize, Bytes.resize, takeWhile_append_zeros]
  exact fun hmem => zero_notMem_encode hname (List.mem_of_mem_take hmem)

/-- **The label of a slot**: what is left of its name. -/
theorem label_make : (make name value).label = String.ofList (Text.Utf8.whole 10 name.toList ++
    if (Text.Utf8.encode (Text.Utf8.whole 10 name.toList)).length < min 10 name.utf8ByteSize then
      [Text.Utf8.replacement] else []) := by
  rw [label, nameBytes_make hname, Text.Utf8.decodeLossy_take_encode,
    Text.Utf8.length_encode_toList]

/-- A name of up to ten bytes is kept. -/
theorem label_make_of_size_le (hsize : name.utf8ByteSize ≤ 10) :
    (make name value).label = name := by
  have hwhole : Text.Utf8.whole 10 name.toList = name.toList := by
    apply Text.Utf8.whole_of_length_le
    rwa [Text.Utf8.length_encode_toList]
  rw [label_make hname, hwhole, Text.Utf8.length_encode_toList, if_neg (by omega),
    List.append_nil, String.ofList_toList]

/-- Something is left of every name, since no character has more than four bytes. -/
theorem label_make_eq_empty_iff : (make name value).label = "" ↔ name = "" := by
  constructor
  · intro hempty
    rw [label_make hname, String.ofList_eq_empty_iff, List.append_eq_nil_iff] at hempty
    exact String.toList_eq_nil_iff.1 ((Text.Utf8.whole_eq_nil_iff (by decide)).1 hempty.1)
  · rintro rfl
    exact label_make_of_size_le hname value (by decide)

end

/-! ## Values of a report -/

/-- What a slot adds to the values of a report. -/
def namedValue (s : DebugSlot) : List (String × Single) :=
  if s.label = "" then [] else [(s.label, s.value)]

end DebugSlot

/-- The values of a report are those of its slots in turn. -/
theorem DebugReport.namedValues_eq_flatMap (r : DebugReport) :
    r.namedValues = r.packages.toList.flatMap DebugSlot.namedValue := by
  rw [namedValues]
  induction r.packages.toList with
  | nil => rfl
  | cons s slots ih =>
    rw [List.flatMap_cons, ← ih, List.map_cons, DebugSlot.namedValue]
    by_cases hempty : s.label = ""
    · rw [List.filter_cons_of_neg (by simp [hempty]), if_pos hempty, List.nil_append]
    · rw [List.filter_cons_of_pos (by simpa using hempty), if_neg hempty, List.singleton_append]

open DebugSlot in
/-- **Debug names survive the wire format**, as far as they fit.  A slot made for a name without
zero characters is labelled with the longest beginning of the name that has at most ten bytes, and a
replacement character behind it exactly when a character is cut, that is, when less than ten bytes
of a longer name are kept; a name of up to ten bytes is kept as it is.  In any report, the slot has
the same label when the report is read back from its payload, and adds one value to those of the
report, under that label, exactly when the name is not empty. -/
theorem DebugReport.name_survives {name : String} (hname : '\x00' ∉ name.toList)
    (value : Single) :
    (∃ kept, Text.LongestFit 10 name.toList kept ∧
      (make name value).label = String.ofList (kept ++
        if (String.ofList kept).utf8ByteSize < 10 ∧ 10 < name.utf8ByteSize then ['\ufffd']
        else [])) ∧
    (name.utf8ByteSize ≤ 10 → (make name value).label = name) ∧
    ∀ (r : DebugReport) (i : Fin 10), r.packages[i] = make name value →
      ∃ r' : DebugReport, Telemetry.decode .debug (Telemetry.debug r).encode = .ok (.debug r') ∧
        r'.packages[i].label = (make name value).label ∧
        r'.namedValues = r'.packages.toList.flatMap namedValue ∧
        r'.packages[i].namedValue =
          if name = "" then [] else [((make name value).label, value)] := by
  have hfit := Text.longestFit_whole 10 name.toList
  refine ⟨⟨_, hfit, ?_⟩, label_make_of_size_le hname value, fun r i hi => ?_⟩
  -- The mark stands there if less was kept than there was room or text for, whichever is less; and
  -- if the whole name fits, all of it was kept.
  · have hsame : (Text.Utf8.encode (Text.Utf8.whole 10 name.toList)).length <
        min 10 name.utf8ByteSize ↔ (String.ofList (Text.Utf8.whole 10 name.toList)).utf8ByteSize <
        10 ∧ 10 < name.utf8ByteSize := by
      rw [Text.utf8ByteSize_ofList]
      rcases Nat.lt_or_ge 10 name.utf8ByteSize with hlong | hshort
      · omega
      · rw [← Text.Utf8.length_encode_toList] at hshort ⊢
        rw [Text.Utf8.whole_of_length_le hshort]
        omega
    rw [label_make hname, if_congr hsame rfl rfl]
    rfl
  -- A report is read back as it was, so its slots have the labels they had.
  · refine ⟨r, Telemetry.decode_encode (.debug r), by rw [hi], r.namedValues_eq_flatMap, ?_⟩
    rw [hi, namedValue]
    exact if_congr (label_make_eq_empty_iff hname value) rfl rfl

/-- A report with one slot in use, whose name is cut in its last character. -/
def DebugReport.cutReport : DebugReport :=
  ⟨7, (Vector.replicate 10 (.make "" ⟨0⟩)).set 3 (.make "temp. in °C" ⟨0x41b80000⟩)⟩

/-- A name of five bytes is kept, one of its characters taking two; one whose tenth byte begins such
a character ends in the mark of what cannot be read. -/
theorem DebugReport.name_survives_cut :
    (DebugSlot.make "Höhe" ⟨0x41b80000⟩).label = "Höhe" ∧
      ∃ r' : DebugReport,
        Telemetry.decode .debug (Telemetry.debug cutReport).encode = .ok (.debug r') ∧
        r'.packages[3].label = "temp. in \ufffd" ∧
        r'.packages[3].namedValue = [("temp. in \ufffd", ⟨0x41b80000⟩)] := by
  obtain ⟨-, hkept, -⟩ := name_survives (show '\x00' ∉ "Höhe".toList by decide) ⟨0x41b80000⟩
  obtain ⟨-, -, hwire⟩ := name_survives (show '\x00' ∉ "temp. in °C".toList by decide) ⟨0x41b80000⟩
  obtain ⟨r', hdecode, hlabel, -, hvalue⟩ := hwire cutReport 3 (by decide)
  -- The degree sign takes two bytes, of which the tenth byte of the name is the first.
  have hcut : (DebugSlot.make "temp. in °C" ⟨0x41b80000⟩).label = "temp. in \ufffd" := by decide
  rw [if_neg (by decide), hcut] at hvalue
  exact ⟨hkept (by decide), r', hdecode, hlabel.trans hcut, hvalue⟩

/-- A name that is cut in a character has a label that is no part of it. -/
theorem DebugSlot.label_make_not_prefix :
    '\x00' ∉ "aaaaaaaaaé".toList ∧
      (make "aaaaaaaaaé" ⟨0x3f800000⟩).label = "aaaaaaaaa\ufffd" ∧
      ¬ (make "aaaaaaaaaé" ⟨0x3f800000⟩).label.toList <+: "aaaaaaaaaé".toList := by
  decide

end ControllerLink
