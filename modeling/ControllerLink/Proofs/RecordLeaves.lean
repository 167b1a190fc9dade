/-
# The leaves of a document

Flattening a document lists its leaves: one field for each value that is reached
through objects only and is no object itself, in the order of the members at
every depth, under the keys of its path joined with dots.  What stands under the
kind of a record is left out, but only at the top.  Of a record every member but
its kind is listed once, in the byte order of the names.

What a path leads to and which of two paths comes first are defined without
flattening, by `Json.Leads` and `Json.Before`, on documents of any shape.
`Json.leaves` computes the same (`Json.mem_leaves`, `Json.pairwise_leaves`), and
flattening is shown to print it:
* adding fields behind others is adding them to none (`Report.flattenInto_eq`);
* below a named member the fields are the leaves
  (`Report.flattenMembers_eq_map`);
* at the top those under the kind are missing (`Report.flattenMembers_top`).
An empty path stands for the top, so a member without a name would be taken for
it; records have none, and for other documents it is assumed.
-/
import ControllerLink.Proofs.ByteOrder
import ControllerLink.Proofs.PlainText

set_option autoImplicit false

namespace ControllerLink

namespace Json

/-! ## Paths -/

/-- Whether a value is an object. -/
def isObject : Json → Bool
  | obj _ => true
  | _ => false

/-- `j.IsMap`: no two members of an object have the same key, at any depth. -/
inductive IsMap : Json → Prop
  | leaf {j : Json} (hleaf : j.isObject = false) : IsMap j
  | object {members : List (String × Json)} (hkeys : (members.map Prod.fst).Nodup)
      (hvalues : ∀ m ∈ members, IsMap m.2) : IsMap (obj members)

/-- `j.Leads path leaf`: from `j` the keys of `path` lead through objects to the value `leaf`,
which is no object. -/
inductive Leads : Json → List String → Json → Prop
  | leaf {j : Json} (hleaf : j.isObject = false) : Leads j [] j
  | member {members : List (String × Json)} {key : String} {value leaf : Json} {path : List String}
      (hmember : (key, value) ∈ members) (hpath : Leads value path leaf) :
      Leads (obj members) (key :: path) leaf

/-- `j.Before path path'`: at the object where the two paths part, the key of the first one is
the earlier one. -/
inductive Before : Json → List String → List String → Prop
  | apart {members : List (String × Json)} {key key' : String} {path path' : List String}
      (hkeys : [key, key'].Sublist (members.map Prod.fst)) :
      Before (obj members) (key :: path) (key' :: path')
  | along {members : List (String × Json)} {key : String} {value : Json} {path path' : List String}
      (hmember : (key, value) ∈ members) (hpaths : Before value path path') :
      Before (obj members) (key :: path) (key :: path')

/-- From a value that is no object only the empty path leads anywhere, to the value itself. -/
theorem leads_of_not_isObject {j leaf : Json} {path : List String} (hj : j.isObject = false) :
    j.Leads path leaf ↔ path = [] ∧ leaf = j := by
  constructor
  · intro h
    cases h with
    | leaf _ => exact ⟨rfl, rfl⟩
    | member => exact absurd hj (by simp [isObject])
  · rintro ⟨rfl, rfl⟩
    exact .leaf hj

/-- A path from an object begins with the key of a member and goes on inside of it. -/
theorem leads_obj {members : List (String × Json)} {path : List String} {leaf : Json} :
    (obj members).Leads path leaf ↔
      ∃ m ∈ members, ∃ rest, path = m.1 :: rest ∧ m.2.Leads rest leaf := by
  constructor
  · intro h
    cases h with
    | leaf hleaf => exact absurd hleaf (by simp [isObject])
    | member hmember hpath => exact ⟨_, hmember, _, rfl, hpath⟩
  · rintro ⟨⟨key, value⟩, hm, rest, rfl, hrest⟩
    exact .member hm hrest

/-- More members in front change nothing for the paths through the others. -/
theorem Before.cons {members : List (String × Json)} {path path' : List String}
    (h : (obj members).Before path path') (m : String × Json) :
    (obj (m :: members)).Before path path' := by
  cases h with
  | apart hkeys => exact .apart (hkeys.cons m.1)
  | along hmember hpaths => exact .along (List.mem_cons_of_mem m hmember) hpaths

/-- In a map no path comes before itself. The two would part at a key, which would be there twice,
or further below. -/
theorem IsMap.not_before_self {j : Json} (hj : j.IsMap) {path : List String} :
    ¬ j.Before path path := by
  intro h
  induction hj generalizing path with
  | leaf hleaf => cases h <;> exact absurd hleaf (by simp [isObject])
  | object hkeys _ ih =>
    cases h with
    | apart hpair => exact absurd (hkeys.sublist hpair) (by simp)
    | along hmember hpaths => exact ih _ hmember hpaths

/-! ## Leaves -/

mutual

/-- The leaves of a value, each behind the path to it. -/
def leaves : Json → List (List String × Json)
  | obj members => memberLeaves members
  | j => [([], j)]

/-- The leaves of the members of an object. -/
def memberLeaves : List (String × Json) → List (List String × Json)
  | [] => []
  | (key, value) :: members =>
    (leaves value).map (fun l => (key :: l.1, l.2)) ++ memberLeaves members

end

theorem leaves_of_not_isObject {j : Json} (hj : j.isObject = false) : j.leaves = [([], j)] := by
  cases j with
  | obj members => exact absurd hj (by simp [isObject])
  | _ => simp [leaves]

/-- Members that are no objects have one leaf each, under their own key. -/
theorem memberLeaves_of_not_isObject {members : List (String × Json)}
    (hleaves : ∀ m ∈ members, m.2.isObject = false) :
    memberLeaves members = members.map fun m => ([m.1], m.2) := by
  induction members with
  | nil => rw [memberLeaves, List.map_nil]
  | cons m members ih =>
    obtain ⟨hvalue, hleaves⟩ := List.forall_mem_cons.1 hleaves
    rw [memberLeaves, leaves_of_not_isObject hvalue, ih hleaves]
    rfl

mutual

/-- The leaves of a document are what its paths lead to.  The induction is on the document and its
members at once. -/
theorem mem_leaves {path : List String} {leaf : Json} :
    ∀ {j : Json}, (path, leaf) ∈ j.leaves ↔ j.Leads path leaf
  | obj members => by
    rw [leaves, leads_obj]
    exact mem_memberLeaves
  | .str _ | .null | .bool _ | .int _ | .single _ | .double _ | .arr _ => by
    rw [leaves_of_not_isObject rfl, leads_of_not_isObject rfl, List.mem_singleton, Prod.mk.injEq]

/-- The leaves of members are what paths through one of the members lead to. -/
theorem mem_memberLeaves {path : List String} {leaf : Json} :
    ∀ {members : List (String × Json)}, (path, leaf) ∈ memberLeaves members ↔
      ∃ m ∈ members, ∃ rest, path = m.1 :: rest ∧ m.2.Leads rest leaf
  | [] => by simp [memberLeaves]
  | (key, value) :: members => by
    rw [memberLeaves, List.mem_append, mem_memberLeaves, List.exists_mem_cons_iff, List.mem_map]
    refine or_congr_left ?_
    constructor
    · rintro ⟨⟨rest, leaf⟩, hrest, hpath⟩
      obtain ⟨rfl, rfl⟩ := Prod.mk.inj hpath
      exact ⟨rest, rfl, mem_leaves.1 hrest⟩
    · rintro ⟨rest, rfl, hrest⟩
      exact ⟨(rest, leaf), mem_leaves.2 hrest, rfl⟩

end

mutual

/-- Leaves are in the order of the members at every depth. -/
theorem pairwise_leaves : ∀ j : Json, j.leaves.Pairwise fun l l' => j.Before l.1 l'.1
  | obj members => by
    rw [leaves]
    exact pairwise_memberLeaves members
  | .str _ | .null | .bool _ | .int _ | .single _ | .double _ | .arr _ => by
    rw [leaves_of_not_isObject rfl]
    exact List.pairwise_singleton _ _

/-- The leaves of members stand in the order of the members, and within one of them in its own
order. -/
theorem pairwise_memberLeaves : ∀ members : List (String × Json),
    (memberLeaves members).Pairwise fun l l' => (obj members).Before l.1 l'.1
  | [] => by simp [memberLeaves]
  | (key, value) :: members => by
    rw [memberLeaves, List.pairwise_append, List.pairwise_map]
    -- Below the first key, behind it, and across: a later key does not come before it.
    refine ⟨?_, ?_, ?_⟩
    · exact (pairwise_leaves value).imp fun h => .along List.mem_cons_self h
    · exact (pairwise_memberLeaves members).imp fun h => h.cons (key, value)
    · rintro l hl ⟨path', leaf'⟩ hl'
      obtain ⟨⟨path, leaf⟩, -, rfl⟩ := List.mem_map.1 hl
      obtain ⟨m, hm, rest, rfl, -⟩ := mem_memberLeaves.1 hl'
      have hkey : m.1 ∈ members.map Prod.fst := List.mem_map_of_mem hm
      exact .apart ((List.singleton_sublist.2 hkey).cons_cons key)

end

/-- In a map each path leads to one leaf. -/
theorem IsMap.nodup_leaves {j : Json} (hj : j.IsMap) : (j.leaves.map Prod.fst).Nodup := by
  rw [List.Nodup, List.pairwise_map]
  refine (pairwise_leaves j).imp fun {l l'} h heq => ?_
  rw [heq] at h
  exact hj.not_before_self h

end Json

namespace Report

open Json

/-! ## Flattening -/

/-- The text of a value that is one field. -/
def leafText : Json → String
  | .str text => text
  | j => j.render

mutual

/-- The fields that a member's value adds behind `fields`, the member having the path `name`. -/
def flattenValueInto (name : String) : Json → List (String × String) → List (String × String)
  | .obj members, fields => flattenInto name members fields
  | .str text, fields => fields ++ [(name, text)]
  | j, fields => fields ++ [(name, j.render)]

/-- The fields of the object at a path, added behind `fields` member by member. -/
def flattenInto (path : String) :
    List (String × Json) → List (String × String) → List (String × String)
  | [], fields => fields
  | (key, value) :: members, fields =>
    if path = "" ∧ key = "kind" then flattenInto path members fields
    else flattenInto path members (flattenValueInto (memberName path key) value fields)

end

mutual

/-- The fields of a value are put behind those that are there, and do not depend on them. -/
theorem flattenValueInto_eq (name : String) : ∀ (j : Json) (fields : List (String × String)),
    flattenValueInto name j fields = fields ++ flattenValue name j
  | .obj members, fields => by
    rw [flattenValueInto, flattenValue]
    exact flattenInto_eq name members fields
  | .str _, _ | .null, _ | .bool _, _ | .int _, _ | .single _, _ | .double _, _ | .arr _, _ => by
    simp only [flattenValueInto, flattenValue]

/-- Flattening adds to what is there and leaves it as it is. -/
theorem flattenInto_eq (path : String) :
    ∀ (members : List (String × Json)) (fields : List (String × String)),
      flattenInto path members fields = fields ++ flattenMembers path members
  | [], fields => by rw [flattenInto, flattenMembers, List.append_nil]
  | (key, value) :: members, fields => by
    rw [flattenInto, flattenMembers]
    split
    · rw [flattenInto_eq path members fields, List.nil_append]
    · rw [flattenInto_eq path members, flattenValueInto_eq (memberName path key) value,
        List.append_assoc]

end

theorem flattenValue_of_not_isObject (name : String) {j : Json} (hj : j.isObject = false) :
    flattenValue name j = [(name, leafText j)] := by
  cases j with
  | obj members => exact absurd hj (by simp [isObject])
  | _ => simp only [flattenValue, leafText]

/-- The field of a leaf: the keys on the way to it joined with dots, and its text. -/
def leafField (l : List String × Json) : String × String :=
  (".".intercalate l.1, leafText l.2)

/-- The name of a member joins its key to the path, just as joining all keys at once does. -/
theorem intercalate_memberName {path : String} (hpath : path ≠ "") (key : String)
    (keys : List String) :
    ".".intercalate (memberName path key :: keys) = ".".intercalate (path :: key :: keys) := by
  rw [memberName, if_neg hpath, String.intercalate_cons_cons]
  cases keys with
  | nil => rw [String.intercalate_singleton, String.intercalate_singleton]
  | cons next keys =>
    rw [String.intercalate_cons_cons, String.intercalate_cons_cons]
    simp only [String.append_assoc]

/-- Below a member that has a name every name is joined, and none is empty. -/
theorem memberName_ne_empty {path : String} (hpath : path ≠ "") (key : String) :
    memberName path key ≠ "" := by
  rw [memberName, if_neg hpath]
  simp [hpath]

mutual

/-- A value at a path gives one field for each of its leaves. -/
theorem flattenValue_eq_map {name : String} (hname : name ≠ "") : ∀ j : Json,
    flattenValue name j = j.leaves.map fun l => leafField (name :: l.1, l.2)
  | .obj members => by
    rw [flattenValue, leaves]
    exact flattenMembers_eq_map hname members
  | .str _ | .null | .bool _ | .int _ | .single _ | .double _ | .arr _ => by
    rw [flattenValue_of_not_isObject name rfl, leaves_of_not_isObject rfl, List.map_singleton,
      leafField, String.intercalate_singleton]

/-- Below the top nothing is left out: the fields are the leaves, under their joined paths. -/
theorem flattenMembers_eq_map {path : String} (hpath : path ≠ "") :
    ∀ members : List (String × Json),
      flattenMembers path members = (memberLeaves members).map fun l => leafField (path :: l.1, l.2)
  | [] => by rw [flattenMembers, memberLeaves, List.map_nil]
  | (key, value) :: members => by
    rw [flattenMembers, memberLeaves, if_neg (fun h => hpath h.1), List.map_append, List.map_map,
      flattenMembers_eq_map hpath members,
      flattenValue_eq_map (memberName_ne_empty hpath key) value]
    simp only [leafField, Function.comp_def, intercalate_memberName hpath]

end

/-- The leaves of a document but for those under the kind of a record. -/
def fieldLeaves (members : List (String × Json)) : List (List String × Json) :=
  (memberLeaves members).filter fun l => l.1.head? ≠ some "kind"

/-- At the top the kind is left out, whatever it is.  The keys there have to be names: below an
empty key the path would be that of the top again. -/
theorem flattenMembers_top {members : List (String × Json)} (hnamed : ∀ m ∈ members, m.1 ≠ "") :
    flattenMembers "" members = (fieldLeaves members).map leafField := by
  induction members with
  | nil => simp [flattenMembers, fieldLeaves, memberLeaves]
  | cons m members ih =>
    obtain ⟨key, value⟩ := m
    obtain ⟨hkey, hnamed⟩ := List.forall_mem_cons.1 hnamed
    rw [flattenMembers, ih hnamed, fieldLeaves, fieldLeaves, memberLeaves, List.filter_append,
      List.map_append, List.filter_map, List.map_map]
    congr 1
    by_cases hkind : key = "kind"
    · -- No leaf below the key is kept, and the key itself is skipped.
      simp [hkind]
    · rw [if_neg (by simp [hkind]), memberName, if_pos rfl, flattenValue_eq_map hkey value]
      simp [hkind, Function.comp_def]

end Report

/-! ## Records -/

theorem Json.IsLeaf.isObject_eq_false {j : Json} (hj : j.IsLeaf) : j.isObject = false := by
  cases j with
  | obj members => exact absurd hj id
  | _ => rfl

/-- The members of a record are named as its fields, in the order of the bytes. -/
theorem Layout.map_fst_members {l : Layout} (values : l.Values) :
    (l.members values).map Prod.fst = l.map Prod.fst := by
  induction l with
  | nil => rfl
  | cons f fields ih =>
    obtain ⟨value, values⟩ := values
    rw [members, List.map_cons, List.map_cons, ih values]

/-- Fields have names, no two the same, and none is the name of the tag. -/
theorem MessageKind.nodup_layout (k : MessageKind) :
    ("" :: "kind" :: k.layout.map Prod.fst).Nodup := by
  cases k <;> decide

namespace Telemetry

/-- No two members of a record have the same name, and none has the empty one; this is checked for
each kind. -/
theorem nodup_taggedMembers (t : Telemetry) : ("" :: t.taggedMembers.map Prod.fst).Nodup := by
  rw [taggedMembers, List.map_cons, members, Layout.map_fst_members]
  exact t.kind.nodup_layout

/-- The members of the name-ordered document of a record. -/
def sortedMembers (t : Telemetry) : List (String × Json) :=
  Json.sortMembers (Json.membersInNameOrder t.taggedMembers)

/-- Sorting keeps the members, and changes their order only. -/
theorem sortedMembers_perm (t : Telemetry) :
    t.sortedMembers.Perm (t.taggedMembers.map fun m => (m.1, m.2.inNameOrder)) := by
  rw [sortedMembers, Json.membersInNameOrder_eq_map]
  exact List.mergeSort_perm _ _

theorem nodup_sortedMembers (t : Telemetry) : ("" :: t.sortedMembers.map Prod.fst).Nodup := by
  have hperm := (t.sortedMembers_perm.map Prod.fst).cons ""
  rw [List.map_map] at hperm
  exact hperm.nodup_iff.2 t.nodup_taggedMembers

theorem named_sortedMembers (t : Telemetry) : ∀ m ∈ t.sortedMembers, m.1 ≠ "" := by
  intro m hm heq
  exact (List.nodup_cons.1 t.nodup_sortedMembers).1 (heq ▸ List.mem_map_of_mem hm)

theorem isObject_sortedMembers (t : Telemetry) : ∀ m ∈ t.sortedMembers, m.2.isObject = false := by
  intro m hm
  obtain ⟨m', hm', rfl⟩ := List.mem_map.1 (t.sortedMembers_perm.mem_iff.1 hm)
  exact (t.plain_taggedMembers m' hm').2.inNameOrder.isObject_eq_false

/-- The document of a record is a map. -/
theorem isMap_sortedMembers (t : Telemetry) : (Json.obj t.sortedMembers).IsMap :=
  .object (List.nodup_cons.1 t.nodup_sortedMembers).2 fun m hm =>
    .leaf (t.isObject_sortedMembers m hm)

end Telemetry

namespace Report

open Json

/-- Members that are no objects are one field each. -/
theorem flattenMembers_of_not_isObject {members : List (String × Json)}
    (hnamed : ∀ m ∈ members, m.1 ≠ "") (hleaves : ∀ m ∈ members, m.2.isObject = false) :
    flattenMembers "" members =
      (members.filter fun m => m.1 ≠ "kind").map fun m => (m.1, leafText m.2) := by
  rw [flattenMembers_top hnamed, fieldLeaves, memberLeaves_of_not_isObject hleaves,
    List.filter_map, List.map_map]
  simp [leafField, Function.comp_def]

/-- The fields of a record are its sorted members, less the kind. -/
theorem recordFields_eq_map (t : Telemetry) :
    recordFields t =
      (t.sortedMembers.filter fun m => m.1 ≠ "kind").map fun m => (m.1, leafText m.2) :=
  flattenMembers_of_not_isObject t.named_sortedMembers t.isObject_sortedMembers

/-- The members of a record are its fields, each once. No field of a record is named as its tag, so
that leaving out the kind leaves out just the tag. -/
theorem recordFields_perm (t : Telemetry) :
    (recordFields t).Perm (t.members.map fun m => (m.1, leafText m.2.inNameOrder)) := by
  have hkind : ∀ m ∈ t.members, m.1 ≠ "kind" := by
    have hnodup := (List.nodup_cons.1 t.nodup_taggedMembers).2
    rw [Telemetry.taggedMembers, List.map_cons, List.nodup_cons] at hnodup
    intro m hm heq
    have hname : m.1 ∈ t.members.map Prod.fst := List.mem_map_of_mem hm
    rw [heq] at hname
    exact hnodup.1 hname
  rw [recordFields_eq_map]
  refine ((t.sortedMembers_perm.filter _).map _).trans (List.Perm.of_eq ?_)
  rw [List.filter_map, List.map_map, Telemetry.taggedMembers, List.filter_cons_of_neg (by simp),
    List.filter_eq_self.2 (by simpa using hkind)]
  rfl

/-- The fields of a record are in the byte order of their names. The members were sorted by name,
and leaving one out keeps the order. -/
theorem pairwise_recordFields (t : Telemetry) :
    (recordFields t).Pairwise fun f f' =>
      Text.Utf8.encode f.1.toList < Text.Utf8.encode f'.1.toList := by
  rw [recordFields_eq_map, List.pairwise_map]
  refine (Json.pairwise_sortMembers ?_).filter _
  rw [Json.membersInNameOrder_eq_map, List.map_map]
  exact (List.nodup_cons.1 t.nodup_taggedMembers).2

/-- **Flattening loses and repeats nothing.**  Behind the fields that are there, a map gives one
field for each leaf that is not under its kind, in the order of the members at every depth, named
by the keys of the path.  A record gives one field for each member but its kind, and the names of
the fields are in the order of their bytes. -/
theorem flattenInto_lists_leaves :
    (∀ (members : List (String × Json)) (fields : List (String × String)),
      (obj members).IsMap → (∀ m ∈ members, m.1 ≠ "") →
        ∃ leaves : List (List String × Json),
          flattenInto "" members fields =
            fields ++ leaves.map (fun l => (".".intercalate l.1, leafText l.2)) ∧
          (∀ path leaf, (path, leaf) ∈ leaves ↔
            (obj members).Leads path leaf ∧ path.head? ≠ some "kind") ∧
          (leaves.map Prod.fst).Nodup ∧
          leaves.Pairwise fun l l' => (obj members).Before l.1 l'.1) ∧
      ∀ t : Telemetry,
        (∃ members, t.toJson.inNameOrder = obj members ∧ (obj members).IsMap ∧
          (∀ m ∈ members, m.1 ≠ "") ∧ recordFields t = flattenInto "" members []) ∧
        (recordFields t).Perm (t.members.map fun m => (m.1, leafText m.2.inNameOrder)) ∧
        (recordFields t).Pairwise fun f f' =>
          Text.Utf8.encode f.1.toList < Text.Utf8.encode f'.1.toList := by
  refine ⟨fun members fields hmap hnamed => ⟨fieldLeaves members, ?_, ?_, ?_, ?_⟩, fun t =>
    ⟨⟨t.sortedMembers, rfl, t.isMap_sortedMembers, ?_, ?_⟩, recordFields_perm t,
      pairwise_recordFields t⟩⟩
  -- The fields are the leaves, less those under the kind at the top.
  · rw [flattenInto_eq, flattenMembers_top hnamed]
    rfl
  · intro path leaf
    rw [fieldLeaves, List.mem_filter, mem_memberLeaves, ← leads_obj, decide_eq_true_iff]
  -- A map has no leaf twice, and leaving some out changes nothing about that.
  · have hleaves : (memberLeaves members).map Prod.fst = (obj members).leaves.map Prod.fst := by
      rw [leaves]
    exact (hleaves ▸ hmap.nodup_leaves).sublist (List.filter_sublist.map Prod.fst)
  · exact (pairwise_memberLeaves members).filter _
  · exact t.named_sortedMembers
  · rw [flattenInto_eq, List.nil_append]
    rfl

/-- A kind is left out at the top with all that is below it, and listed elsewhere; an empty object
has no fields. The keys at every depth are different, as the hypothesis asks. -/
theorem flattenInto_lists_leaves_nested :
    flattenInto ""
        [("a", .obj [("b", .obj []), ("kind", .bool true)]), ("kind", .obj [("c", .null)]),
          ("s", .str "t")] [("z", "0")] =
      [("z", "0"), ("a.kind", "true"), ("s", "t")] ∧
    ∃ leaves : List (List String × Json),
      leaves.map (fun l => (".".intercalate l.1, leafText l.2)) =
        [("a.kind", "true"), ("s", "t")] ∧
      (leaves.map Prod.fst).Nodup := by
  have hmap : (obj [("a", .obj [("b", .obj []), ("kind", .bool true)]),
      ("kind", .obj [("c", .null)]), ("s", .str "t")]).IsMap := by
    have htag : IsMap (.bool true) := .leaf rfl
    have hinner : (obj [("b", .obj []), ("kind", .bool true)]).IsMap :=
      .object (by decide) (by simpa [htag] using .object (by decide) (by simp))
    have hkind : (obj [("c", .null)]).IsMap := .object (by decide) (by simpa using .leaf rfl)
    have htext : IsMap (.str "t") := .leaf rfl
    exact .object (by decide) (by simp [hinner, hkind, htext])
  have hflat : flattenInto ""
        [("a", .obj [("b", .obj []), ("kind", .bool true)]), ("kind", .obj [("c", .null)]),
          ("s", .str "t")] [("z", "0")] =
      [("z", "0"), ("a.kind", "true"), ("s", "t")] := by
    simp [flattenInto, flattenValueInto, memberName, render]
  obtain ⟨leaves, hleaves, -, hnodup, -⟩ :=
    flattenInto_lists_leaves.1 _ [("z", "0")] hmap (by decide)
  rw [hflat] at hleaves
  refine ⟨hflat, leaves, ?_, hnodup⟩
  simpa using hleaves.symm

end Report

end ControllerLink
