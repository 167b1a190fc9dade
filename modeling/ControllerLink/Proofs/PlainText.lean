/-
# Text without control characters

Numbers, field names and JSON hold no control character, whatever values they
are made of: JSON escapes those that stand in strings.

Plain text is taken apart along appended parts, and the lemmas follow the
functions that make text: digits, numbers in decimal and in scientific notation,
strings, documents, records. The only step with something to see is that of a
string: a character below the space becomes an escape sequence, and that is made
of plain characters (`Json.plain_escapeChar`). A record in the pretty format is
plain for another reason, for all that is put in as it came are its field names
(`Report.plain_recordFields`).
-/
import ControllerLink.Proofs.Utf8Text
import ControllerLink.Report.Format

set_option autoImplicit false

namespace ControllerLink

namespace Text

/-- `Plain cs`: no control character below the space is among `cs`. -/
def Plain (cs : List Char) : Prop :=
  ∀ c ∈ cs, 0x20 ≤ c.toNat

instance (cs : List Char) : Decidable (Plain cs) :=
  List.decidableBAll (fun c : Char => 0x20 ≤ c.toNat) cs

@[simp] theorem plain_nil : Plain [] := fun _ h => absurd h (by simp)

@[simp] theorem plain_cons {c : Char} {cs : List Char} :
    Plain (c :: cs) ↔ 0x20 ≤ c.toNat ∧ Plain cs := List.forall_mem_cons

/-- Text is plain when its parts are, which is how all that follows is taken apart. -/
@[simp] theorem plain_append {cs ds : List Char} : Plain (cs ++ ds) ↔ Plain cs ∧ Plain ds :=
  List.forall_mem_append

theorem Plain.take {cs : List Char} (h : Plain cs) (n : Nat) : Plain (cs.take n) :=
  fun c hc => h c (List.mem_of_mem_take hc)

theorem Plain.drop {cs : List Char} (h : Plain cs) (n : Nat) : Plain (cs.drop n) :=
  fun c hc => h c (List.mem_of_mem_drop hc)

theorem plain_replicate {c : Char} (hc : 0x20 ≤ c.toNat) (n : Nat) : Plain (List.replicate n c) :=
  fun _ h => List.eq_of_mem_replicate h ▸ hc

/-- Digits in a base up to sixteen. -/
theorem plain_toDigits {b : Nat} (hone : 1 < b) (hb : b ≤ 16) (n : Nat) :
    Plain (Nat.toDigits b n) := by
  have hdigit : ∀ d < 16, 0x20 ≤ (Nat.digitChar d).toNat := by decide
  induction n using Nat.strongRecOn with
  | ind n ih =>
    rcases Nat.lt_or_ge n b with hn | hn
    · rw [Nat.toDigits_of_lt_base hn]
      exact plain_cons.2 ⟨hdigit n (Nat.lt_of_lt_of_le hn hb), plain_nil⟩
    · rw [Nat.toDigits_of_base_le hone hn, plain_append]
      refine ⟨ih _ (Nat.div_lt_self (by omega) hone), plain_cons.2 ⟨hdigit _ ?_, plain_nil⟩⟩
      exact Nat.lt_of_lt_of_le (Nat.mod_lt _ (by omega)) hb

theorem plain_decimal (n : Nat) : Plain (Nat.toDigits 10 n) :=
  plain_toDigits (by decide) (by decide) n

theorem plain_toString (n : Int) : Plain (toString n).toList := by
  have hnat : ∀ m : Nat, Plain (Nat.repr m).toList := by
    intro m
    rw [Nat.repr, String.toList_ofList]
    exact plain_decimal m
  cases n with
  | ofNat m => exact hnat m
  | negSucc m =>
    show Plain ("-" ++ Nat.repr m.succ).toList
    rw [String.toList_append, plain_append]
    exact ⟨by decide, hnat m.succ⟩

/-- Plain texts with plain text between them are plain. -/
theorem plain_intercalate {separator : String} (hseparator : Plain separator.toList)
    {texts : List String} (htexts : ∀ s ∈ texts, Plain s.toList) :
    Plain (separator.intercalate texts).toList := by
  match texts with
  | [] => exact plain_nil
  | [s] =>
    rw [String.intercalate_singleton]
    exact htexts s (by simp)
  | s :: next :: texts =>
    obtain ⟨hs, hrest⟩ := List.forall_mem_cons.1 htexts
    rw [String.intercalate_cons_cons, String.toList_append, String.toList_append, plain_append,
      plain_append]
    exact ⟨⟨hs, hseparator⟩, plain_intercalate hseparator hrest⟩

theorem plain_hexDigits (width n : Nat) : Plain (hexDigits width n).toList := by
  rw [hexDigits, String.toList_ofList, plain_append]
  exact ⟨plain_replicate (by decide) _, plain_toDigits (by decide) (by decide) n⟩

end Text

open Text

/-! ## Numbers -/

namespace NumeralStyle

variable (style : NumeralStyle) {digits : List Char}

/-- Digits with a point among them, or with zeros at either end, are plain, wherever the point
stands. -/
theorem plain_placed (hdigits : Plain digits) (exponent : Int) :
    Plain (style.placed digits exponent) := by
  have hzeros : ∀ n, Plain (zeros n) := plain_replicate (by decide)
  unfold placed
  dsimp only
  split
  · rw [plain_append, plain_append]
    exact ⟨⟨hdigits, hzeros _⟩, by split <;> decide⟩
  · split
    · rw [plain_append, plain_cons]
      exact ⟨hdigits.take _, by decide, hdigits.drop _⟩
    · simp [hzeros, hdigits]

/-- Digits with an exponent behind them are plain. A single digit has no point behind it. -/
theorem plain_scientific (hdigits : Plain digits) (exponent : Int) :
    Plain (scientific digits exponent) := by
  unfold scientific
  dsimp only
  rw [plain_append, plain_cons, plain_cons]
  refine ⟨?_, by decide, by split <;> decide, plain_decimal _⟩
  split
  · exact plain_nil
  · exact hdigits
  · rw [plain_cons] at hdigits ⊢
    exact ⟨hdigits.1, plain_cons.2 ⟨by decide, hdigits.2⟩⟩

theorem plain_magnitude (m : Nat) (q : Int) : Plain (style.magnitude m q) := by
  unfold magnitude
  split
  · rw [plain_cons]
    exact ⟨by decide, by split <;> decide⟩
  · dsimp only
    split
    · exact style.plain_placed (plain_decimal _) _
    · exact plain_scientific (plain_decimal _) _

/-- A finite number is plain, with its sign. -/
theorem plain_of_finite? {bits : Nat} {cs : List Char} (h : style.finite? bits = some cs) :
    Plain cs := by
  unfold finite? at h
  split at h
  · next negative m q _ =>
    rw [Option.some.injEq] at h
    rw [← h]
    split
    · exact plain_cons.2 ⟨by decide, style.plain_magnitude m q⟩
    · exact style.plain_magnitude m q
  · exact absurd h (by simp)

/-- A number in any style is plain, also if it is infinite or no number at all. -/
theorem plain_text (bits : Nat) : Plain (style.text bits) := by
  unfold text
  split
  · split <;> decide
  · decide
  · cases hfinite : style.finite? bits with
    | none => exact plain_nil
    | some cs => exact style.plain_of_finite? hfinite

end NumeralStyle

/-- A single-precision number is plain where it stands alone. -/
theorem Single.plain_text (x : Single) : Plain x.text.toList := by
  rw [text, String.toList_ofList]
  exact NumeralStyle.plain.plain_text _

/-! ## JSON -/

namespace Json

/-- A control character in a string is escaped; the escape sequence itself is plain. The named
escape sequences are fixed texts; the others are made of hexadecimal digits. -/
theorem plain_escapeChar (c : Char) : Plain (escapeChar c) := by
  unfold escapeChar
  repeat' split
  any_goals decide
  · exact plain_cons.2 ⟨by decide, plain_cons.2 ⟨by decide, plain_hexDigits _ _⟩⟩
  · next h => exact plain_cons.2 ⟨Nat.not_lt.1 h, plain_nil⟩

/-- A string is written without control characters, whatever is in it. -/
theorem plain_renderString (s : String) : Plain (renderString s).toList := by
  have hescaped : Plain (String.ofList (s.toList.flatMap escapeChar)).toList := by
    rw [String.toList_ofList]
    intro c hc
    obtain ⟨d, -, hd⟩ := List.mem_flatMap.1 hc
    exact plain_escapeChar d c hd
  rw [renderString, String.toList_append, String.toList_append, plain_append, plain_append]
  exact ⟨⟨by decide, hescaped⟩, by decide⟩

/-- A number in a document is plain; one that JSON cannot write becomes `null`. -/
theorem plain_renderNumber (style : NumeralStyle) (bits : Nat) :
    Plain (renderNumber style bits).toList := by
  unfold renderNumber
  split
  · next cs hfinite =>
    rw [String.toList_ofList]
    exact style.plain_of_finite? hfinite
  · decide

mutual

/-- **JSON holds no control character**, whatever value it is the text of. -/
theorem plain_render : ∀ j : Json, Plain (render j).toList
  | null => by decide
  | bool true => by decide
  | bool false => by decide
  | int n => by rw [render]; exact plain_toString n
  | single x => by rw [render]; exact plain_renderNumber _ _
  | double bits => by rw [render]; exact plain_renderNumber _ _
  | str s => by rw [render]; exact plain_renderString s
  | arr items => by
    rw [render, String.toList_append, String.toList_append, plain_append, plain_append]
    exact ⟨⟨by decide, plain_renderItems items⟩, by decide⟩
  | obj members => by
    rw [render, String.toList_append, String.toList_append, plain_append, plain_append]
    exact ⟨⟨by decide, plain_renderMembers members⟩, by decide⟩

/-- The items of an array are plain, with the commas between them. -/
theorem plain_renderItems : ∀ items : List Json, Plain (renderItems items).toList
  | [] => by decide
  | [item] => by rw [renderItems]; exact plain_render item
  | item :: next :: items => by
    have hrest := plain_renderItems (next :: items)
    simp only [renderItems, String.toList_append, plain_append] at hrest ⊢
    exact ⟨⟨plain_render item, by decide⟩, hrest⟩

/-- The members of an object are plain: a name is a string, and so its control characters are
escaped too. -/
theorem plain_renderMembers : ∀ members : List (String × Json), Plain (renderMembers members).toList
  | [] => by decide
  | [(name, value)] => by
    simp only [renderMembers, String.toList_append, plain_append]
    exact ⟨⟨plain_renderString name, by decide⟩, plain_render value⟩
  | (name, value) :: next :: members => by
    have hrest := plain_renderMembers (next :: members)
    rw [renderMembers]
    · simp only [String.toList_append, plain_append]
      exact ⟨⟨⟨⟨plain_renderString name, by decide⟩, plain_render value⟩, by decide⟩, hrest⟩
    · simp

end

/-- A value that is one field of a record, and holds no control character of its own. -/
def IsLeaf : Json → Prop
  | obj _ => False
  | str s => Plain s.toList
  | _ => True

/-- Sorting members by name leaves a leaf a leaf. -/
theorem IsLeaf.inNameOrder {j : Json} (h : j.IsLeaf) : j.inNameOrder.IsLeaf := by
  cases j with
  | obj members => exact absurd h id
  | single x =>
    unfold Json.inNameOrder
    split <;> trivial
  | _ => exact h

/-- Sorting goes into every member by itself. -/
theorem membersInNameOrder_eq_map (members : List (String × Json)) :
    membersInNameOrder members = members.map fun m => (m.1, m.2.inNameOrder) := by
  induction members with
  | nil => rfl
  | cons m members ih => rw [membersInNameOrder, ih, List.map_cons]

end Json

/-! ## Records -/

theorem MessageKind.plain_name (k : MessageKind) : Plain k.name.toList := by
  cases k <;> decide

/-- The names of fields. -/
theorem MessageKind.plain_layout (k : MessageKind) : ∀ f ∈ k.layout, Plain f.1.toList := by
  cases k <;> decide

/-- A field of a record is a leaf, whatever type it has. -/
theorem FieldType.isLeaf_toJson (t : FieldType) (value : t.Value) : (t.toJson value).IsLeaf := by
  cases t <;> trivial

/-- A member of a record has the name of a field, and a leaf as its value. -/
theorem Layout.mem_members {l : Layout} {values : l.Values} {m : String × Json}
    (hm : m ∈ l.members values) : (∃ f ∈ l, m.1 = f.1) ∧ m.2.IsLeaf := by
  induction l with
  | nil => exact absurd hm (by simp [members])
  | cons f fields ih =>
    obtain ⟨value, values⟩ := values
    rcases List.mem_cons.1 hm with rfl | hm
    · exact ⟨⟨f, List.mem_cons_self, rfl⟩, f.2.isLeaf_toJson value⟩
    · obtain ⟨⟨f', hf', hname⟩, hleaf⟩ := ih hm
      exact ⟨⟨f', List.mem_cons_of_mem _ hf', hname⟩, hleaf⟩

/-- The members of a record have plain names and leaves as values, the kind included. -/
theorem Telemetry.plain_taggedMembers (t : Telemetry) :
    ∀ m ∈ t.taggedMembers, Plain m.1.toList ∧ m.2.IsLeaf := by
  have hkind : Plain "kind".toList := by decide
  refine List.forall_mem_cons.2 ⟨⟨hkind, t.kind.plain_name⟩, fun m hm => ?_⟩
  obtain ⟨⟨f, hf, hname⟩, hleaf⟩ := Layout.mem_members hm
  exact ⟨hname ▸ t.kind.plain_layout f hf, hleaf⟩

namespace Report

/-- A leaf is flattened to a single field, whose text is plain. -/
theorem flattenValue_of_isLeaf (name : String) {j : Json} (hj : j.IsLeaf) :
    ∃ text, flattenValue name j = [(name, text)] ∧ Plain text.toList := by
  cases j with
  | obj members => exact absurd hj id
  | str s => exact ⟨s, rfl, hj⟩
  | _ => exact ⟨_, rfl, Json.plain_render _⟩

/-- Members with plain names and leaves as values are flattened to plain fields. -/
theorem plain_flattenMembers {members : List (String × Json)}
    (hmembers : ∀ m ∈ members, Plain m.1.toList ∧ m.2.IsLeaf) :
    ∀ f ∈ flattenMembers "" members, Plain f.1.toList ∧ Plain f.2.toList := by
  induction members with
  | nil => simp [flattenMembers]
  | cons m members ih =>
    obtain ⟨⟨hname, hleaf⟩, hmembers⟩ := List.forall_mem_cons.1 hmembers
    rw [flattenMembers, List.forall_mem_append]
    refine ⟨?_, ih hmembers⟩
    obtain ⟨text, hflat, htext⟩ := flattenValue_of_isLeaf (memberName "" m.1) hleaf
    split
    · simp
    · rw [hflat]
      simpa [memberName] using ⟨hname, htext⟩

/-- A field of a record and its value hold no control character. Sorting only puts the members into
another order. -/
theorem plain_recordFields (t : Telemetry) :
    ∀ f ∈ recordFields t, Plain f.1.toList ∧ Plain f.2.toList := by
  refine plain_flattenMembers fun m hm => ?_
  rw [Json.sortMembers, List.mem_mergeSort, Json.membersInNameOrder_eq_map, List.mem_map] at hm
  obtain ⟨m', hm', rfl⟩ := hm
  obtain ⟨hname, hleaf⟩ := t.plain_taggedMembers m' hm'
  exact ⟨hname, hleaf.inNameOrder⟩

/-- A line of plain fields is plain: only a name or a value could break it. -/
theorem plain_fieldLine {word : String} (hword : Plain word.toList)
    {fields : List (String × String)}
    (hfields : ∀ f ∈ fields, Plain f.1.toList ∧ Plain f.2.toList) :
    Plain (fieldLine word fields).toList := by
  refine plain_intercalate (by decide) (List.forall_mem_cons.2 ⟨hword, fun s hs => ?_⟩)
  obtain ⟨f, hf, rfl⟩ := List.mem_map.1 hs
  rw [String.toList_append, String.toList_append, plain_append, plain_append]
  exact ⟨⟨(hfields f hf).1, by decide⟩, (hfields f hf).2⟩

end Report

end ControllerLink
