/-
# Command lines as updates

A line that is understood stands for one update: for every field a value, or
none.  The update is made as a whole or not at all, so that after any row of
lines a field has the value that the last line to name it gave, and two lines
make one update, the later over the earlier.

Two readings of a line are set side by side.  The one that runs goes through the
members and collects changes, which it makes one after the other only when all
of them are sound.  The other one, stated here, takes the values of a line by
name (`namedOfTokens`), asks whether all of them are `understood`, and is an
update as a whole (`updateOf`).  That the two agree is `apply_eq`; everything
about rows of lines then follows from the algebra of updates, where a later one
is `laidOver` an earlier one.
-/
import ControllerLink.Proofs.ExactNumbers
import ControllerLink.Proofs.OutboundStream

set_option autoImplicit false

namespace ControllerLink

/-! ## Updates -/

/-- New values for some fields of a command. -/
@[ext]
structure CommandUpdate where
  number : NumberField → Option Single
  flag : FlagField → Option Bool

namespace CommandUpdate

/-- The update of no field. -/
def none : CommandUpdate := ⟨fun _ => .none, fun _ => .none⟩

/-- Give every field its new value, if it has one. -/
def applyTo (u : CommandUpdate) (c : RobotCommand) : RobotCommand where
  timeStamp := c.timeStamp
  vx := (u.number .vx).getD c.vx
  vy := (u.number .vy).getD c.vy
  wz := (u.number .wz).getD c.wz
  chassisYaw := (u.number .chassisYaw).getD c.chassisYaw
  chassisPitch := (u.number .chassisPitch).getD c.chassisPitch
  chassisRoll := (u.number .chassisRoll).getD c.chassisRoll
  legLength := (u.number .legLength).getD c.legLength
  gimbalYaw := (u.number .gimbalYaw).getD c.gimbalYaw
  gimbalPitch := (u.number .gimbalPitch).getD c.gimbalPitch
  fire := (u.flag .fire).getD c.fire
  frictionOn := (u.flag .frictionOn).getD c.frictionOn

/-- The fields of `later` where it has them, and else those of `earlier`. -/
def laidOver (later earlier : CommandUpdate) : CommandUpdate where
  number f := (later.number f).or (earlier.number f)
  flag f := (later.flag f).or (earlier.flag f)

end CommandUpdate

namespace RobotCommand

/-- A command is its fields. -/
theorem eq_of_fields {c d : RobotCommand} (htime : c.timeStamp = d.timeStamp)
    (hnumber : ∀ f, c.number f = d.number f) (hflag : ∀ f, c.flag f = d.flag f) : c = d := by
  obtain ⟨time, vx, vy, wz, yaw, pitch, roll, leg, gimbalYaw, gimbalPitch, fire, friction⟩ := c
  obtain rfl : time = _ := htime
  obtain rfl : vx = _ := hnumber .vx
  obtain rfl : vy = _ := hnumber .vy
  obtain rfl : wz = _ := hnumber .wz
  obtain rfl : yaw = _ := hnumber .chassisYaw
  obtain rfl : pitch = _ := hnumber .chassisPitch
  obtain rfl : roll = _ := hnumber .chassisRoll
  obtain rfl : leg = _ := hnumber .legLength
  obtain rfl : gimbalYaw = _ := hnumber .gimbalYaw
  obtain rfl : gimbalPitch = _ := hnumber .gimbalPitch
  obtain rfl : fire = _ := hflag .fire
  obtain rfl : friction = _ := hflag .frictionOn
  rfl

@[simp] theorem timeStamp_applyTo (u : CommandUpdate) (c : RobotCommand) :
    (u.applyTo c).timeStamp = c.timeStamp := rfl

@[simp] theorem number_applyTo (u : CommandUpdate) (c : RobotCommand) (f : NumberField) :
    (u.applyTo c).number f = (u.number f).getD (c.number f) := by
  cases f <;> rfl

@[simp] theorem flag_applyTo (u : CommandUpdate) (c : RobotCommand) (f : FlagField) :
    (u.applyTo c).flag f = (u.flag f).getD (c.flag f) := by
  cases f <;> rfl

/-- No change reaches the time stamp. -/
theorem timeStamp_assignAll (c : RobotCommand) (changes : List Assignment) :
    (c.assignAll changes).timeStamp = c.timeStamp := by
  induction changes generalizing c with
  | nil => rfl
  | cons change changes ih =>
    refine (ih (c.assign change)).trans ?_
    cases change with
    | number f x => cases f <;> rfl
    | flag f b => cases f <;> rfl

end RobotCommand

namespace CommandUpdate

@[simp] theorem applyTo_none (c : RobotCommand) : none.applyTo c = c := rfl

/-- **Two updates in a row are one.** -/
theorem applyTo_laidOver (later earlier : CommandUpdate) (c : RobotCommand) :
    (later.laidOver earlier).applyTo c = later.applyTo (earlier.applyTo c) := by
  refine RobotCommand.eq_of_fields rfl (fun f => ?_) (fun f => ?_)
  · simp [laidOver, Option.getD_or]
  · simp [laidOver, Option.getD_or]

/-- An update laid over itself is itself, so making it twice is making it once. -/
theorem laidOver_self (u : CommandUpdate) : u.laidOver u = u := by
  ext1
  · funext f
    exact Option.or_self
  · funext f
    exact Option.or_self

end CommandUpdate

/-! ## Names

Names and fields determine each other, so that looking a value up by its name is looking it up by
its field. -/

namespace CommandField

/-- Every field is found by its name. -/
theorem ofName?_name (field : CommandField) : ofName? field.name = some field := by
  obtain ⟨f⟩ | ⟨f⟩ := field
  · cases f <;> decide
  · cases f <;> decide

/-- What is found by a name has it. -/
theorem name_of_ofName? {name : String} {field : CommandField} (h : ofName? name = some field) :
    field.name = name := by
  simpa using List.find?_some h

theorem name_injective : Function.Injective name := by
  intro field field' h
  rw [← Option.some.injEq, ← ofName?_name, ← ofName?_name, h]

end CommandField

/-! ## The update of a line -/

namespace CommandLine

open Json (Token)

/-- The number that a value stands for. -/
def numberOf? : Token → Option Single
  | .number n => some n.toSingle
  | _ => none

/-- What a value switches a field to. -/
def flagOf? : Token → Option Bool
  | .bool b => some b
  | _ => none

/-- Whether a field can be given a value; `null` leaves any field as it is. -/
def fits : CommandField → Token → Bool
  | _, .null => true
  | .number _, value => (numberOf? value).isSome
  | .flag _, value => (flagOf? value).isSome

/-- The values of a line by name: an object has them so, and in an array there is one for each name,
in order. -/
def namedOfTokens : List Token → Option (List (String × Token))
  | [.leftBrace, .rightBrace] => some []
  | .leftBrace :: rest => scanMembers rest
  | .leftBracket :: rest =>
    (scanItems rest).bind fun items =>
      if items.length = CommandField.all.length then
        some ((CommandField.all.map CommandField.name).zip items)
      else none
  | _ => none

/-- Whether every name is that of a field which the value fits, and none comes twice. -/
def understood (members : List (String × Token)) : Bool :=
  (members.map Prod.fst).Nodup &&
    members.all fun p => (CommandField.ofName? p.1).any fun field => fits field p.2

/-- The update that values by name stand for: a field that is missing, or `null`, keeps its
value. -/
def updateOf (members : List (String × Token)) : CommandUpdate where
  number f := (members.lookup (CommandField.number f).name).bind numberOf?
  flag f := (members.lookup (CommandField.flag f).name).bind flagOf?

/-- The update that a line asks for, if it is understood to its end. -/
def update? (line : String) : Option CommandUpdate :=
  ((Token.scan (Text.trimChars line.toList)).bind namedOfTokens).bind fun members =>
    if understood members then some (updateOf members) else none

/-- What a line changes; one that is not understood changes nothing. -/
def update (line : String) : CommandUpdate :=
  (update? line).getD .none

/-- The update gives a field the number that is written for it, in single precision. -/
theorem number_updateOf {members : List (String × Token)} {f : NumberField} {n : Json.Number}
    (given : members.lookup (CommandField.number f).name = some (.number n)) :
    (updateOf members).number f = some n.toSingle :=
  congrArg (Option.bind · numberOf?) given

/-- **A field holds the whole number that is written for it**, if this has at most 24 bits. -/
theorem number_updateOf_int {members : List (String × Token)} {f : NumberField} {n : Int}
    (given : members.lookup (CommandField.number f).name = some (.number (.int n)))
    (hn : n.natAbs < 2 ^ 24) :
    ∃ (x : Single) (k : Nat), (updateOf members).number f = some x ∧
      binary32.decode x.bits.toNat = .finite (n < 0) (n.natAbs * 2 ^ k) (-k) := by
  obtain ⟨k, hk⟩ := Json.Number.toSingle_int hn
  exact ⟨_, k, number_updateOf given, hk⟩

/-- **A field holds the number with a fraction or an exponent that is written for it**, if the
double-precision number that is read has at most 24 significant bits, and magnitude 2 to the power
of -126 at least and less than 2 to the power of 128. -/
theorem number_updateOf_double {members : List (String × Token)} {f : NumberField} {bits : UInt64}
    {negative : Bool} {m t : Nat} {q : Int}
    (given : members.lookup (CommandField.number f).name = some (.number (.double bits)))
    (hbits : binary64.decode bits.toNat = .finite negative (m * 2 ^ t) q) (hpos : 0 < m)
    (hm : m < 2 ^ 24) (hlow : -126 ≤ m.log2 + t + q) (hhigh : m.log2 + t + q ≤ 127) :
    ∃ x : Single, (updateOf members).number f = some x ∧
      binary32.decode x.bits.toNat =
        .finite negative (m * 2 ^ (23 - m.log2)) (t + q - (23 - m.log2 : Nat)) :=
  ⟨_, number_updateOf given, Json.Number.toSingle_double hbits hpos hm hlow hhigh⟩

/-! ### Fields by name -/

/-- Fields with their values, under their names. -/
def byName (fields : List (CommandField × Token)) : List (String × Token) :=
  fields.map fun p => (p.1.name, p.2)

/-- Members have fields exactly when each has the name of one. -/
theorem fieldsOfMembers_eq_some_iff {members : List (String × Token)}
    {fields : List (CommandField × Token)} :
    fieldsOfMembers members = some fields ↔ members = byName fields := by
  constructor
  · intro h
    -- Member by member: each has the name of a field, which then is the name that the field has.
    induction members generalizing fields with
    | nil =>
      obtain rfl := Option.some.inj h
      rfl
    | cons m members ih =>
      rw [fieldsOfMembers, List.mapM_cons] at h
      obtain ⟨p, hp, h⟩ := Option.bind_eq_some_iff.1 h
      obtain ⟨later, hlater, h⟩ := Option.bind_eq_some_iff.1 h
      obtain ⟨field, hfield, rfl⟩ := Option.map_eq_some_iff.1 hp
      obtain rfl := Option.some.inj h
      rw [ih hlater, byName, byName, List.map_cons, CommandField.name_of_ofName? hfield]
  · rintro rfl
    induction fields with
    | nil => rfl
    | cons p fields ih =>
      rw [fieldsOfMembers, byName] at ih ⊢
      rw [List.map_cons, List.mapM_cons, ih, CommandField.ofName?_name]
      rfl

/-- The fields of a line are those of its values by name, if none comes twice. Both functions look
at the tokens in the same way; only an array needs an argument. -/
theorem fieldsOfTokens_eq (tokens : List Token) :
    fieldsOfTokens tokens = (namedOfTokens tokens).bind fun members =>
      (fieldsOfMembers members).bind fun fields =>
        if (fields.map Prod.fst).Nodup then some fields else none := by
  unfold fieldsOfTokens
  split
  · rfl
  · next rest hrest =>
    rw [namedOfTokens]
    · rfl
    · exact hrest
  · next rest =>
    rw [namedOfTokens]
    show (scanItems rest).bind _ = ((scanItems rest).bind _).bind _
    rw [Option.bind_assoc]
    congr 1
    funext items
    split
    · next hlen =>
      have hfields : fieldsOfMembers ((CommandField.all.map CommandField.name).zip items) =
          some (CommandField.all.zip items) := by
        rw [fieldsOfMembers_eq_some_iff, byName, List.zip_map_left]
        rfl
      -- In an array every field has its place, so none comes twice.
      have hnodup : ((CommandField.all.zip items).map Prod.fst).Nodup := by
        rw [List.map_fst_zip (Nat.le_of_eq hlen.symm)]
        decide
      rw [Option.bind_some, hfields, Option.bind_some, if_pos hnodup]
    · rfl
  · next hobject hmembers harray =>
    rw [namedOfTokens]
    · rfl
    · exact hobject
    · exact hmembers
    · exact harray

/-- Members that are understood have fields. Only that every name is known matters here, and this
goes down the members. -/
theorem exists_fields_of_understood {members : List (String × Token)}
    (h : understood members = true) : ∃ fields, members = byName fields := by
  have hknown : ∀ p ∈ members, ∃ field, CommandField.ofName? p.1 = some field := by
    intro p hp
    rw [understood, Bool.and_eq_true, List.all_eq_true] at h
    obtain ⟨field, hfield, -⟩ := (Option.any_eq_true _ _).1 (h.2 p hp)
    exact ⟨field, hfield⟩
  clear h
  induction members with
  | nil => exact ⟨[], rfl⟩
  | cons p members ih =>
    obtain ⟨field, hfield⟩ := hknown p List.mem_cons_self
    obtain ⟨fields, rfl⟩ := ih fun q hq => hknown q (List.mem_cons_of_mem _ hq)
    refine ⟨(field, p.2) :: fields, ?_⟩
    rw [byName, byName, List.map_cons, CommandField.name_of_ofName? hfield]

/-- Fields under their names are understood when none comes twice and all values fit. -/
theorem understood_byName (fields : List (CommandField × Token)) :
    understood (byName fields) =
      (decide (fields.map Prod.fst).Nodup && fields.all fun p => fits p.1 p.2) := by
  have hnames : (byName fields).map Prod.fst = (fields.map Prod.fst).map CommandField.name := by
    rw [byName, List.map_map, List.map_map]
    rfl
  have hnodup : ((byName fields).map Prod.fst).Nodup ↔ (fields.map Prod.fst).Nodup := by
    rw [hnames, List.nodup_map_iff CommandField.name_injective]
  rw [understood, byName, List.all_map]
  rw [byName] at hnodup
  congr 1
  · exact decide_eq_decide.2 hnodup
  · congr 1
    funext p
    simp [CommandField.ofName?_name]

/-- A field is found by its name. -/
theorem lookup_byName (fields : List (CommandField × Token)) (field : CommandField) :
    (byName fields).lookup field.name = fields.lookup field := by
  induction fields with
  | nil => rfl
  | cons p fields ih =>
    have hname : (field.name == p.1.name) = (field == p.1) := by
      rw [Bool.eq_iff_iff, beq_iff_eq, beq_iff_eq, CommandField.name_injective.eq_iff]
    rw [byName] at ih ⊢
    rw [List.map_cons, List.lookup_cons, List.lookup_cons, hname, ih]

/-- The changes that a value makes to its field: one, or none. -/
def assignmentsOf : CommandField × Token → List Assignment
  | (.number f, t) => (numberOf? t).toList.map (.number f)
  | (.flag f, t) => (flagOf? t).toList.map (.flag f)

/-- A value that fits makes its changes. -/
theorem change?_eq (p : CommandField × Token) :
    change? p.1 p.2 = if fits p.1 p.2 then some (assignmentsOf p) else none := by
  obtain ⟨f | f, t⟩ := p
  · cases t <;> rfl
  · cases t <;> rfl

/-- The changes of all fields are made if all values fit. -/
theorem mapM_change? (fields : List (CommandField × Token)) :
    fields.mapM (fun p => change? p.1 p.2) =
      if fields.all fun p => fits p.1 p.2 then some (fields.map assignmentsOf) else none := by
  induction fields with
  | nil => rfl
  | cons p fields ih =>
    rw [List.mapM_cons, change?_eq, ih, List.all_cons]
    cases hp : fits p.1 p.2 with
    | false => rfl
    | true => cases hfields : fields.all fun p => fits p.1 p.2 <;> rfl

/-- A value is assigned to a number if it is given to that field and is a number. -/
theorem number?_assignmentsOf (f : NumberField) (p : CommandField × Token) :
    (assignmentsOf p).filterMap (Assignment.number? f) =
      if CommandField.number f = p.1 then (numberOf? p.2).toList else [] := by
  obtain ⟨g | g, t⟩ := p
  · rw [assignmentsOf]
    cases numberOf? t with
    | none => simp
    | some x => by_cases hg : f = g <;> simp [Assignment.number?, hg, eq_comm]
  · rw [assignmentsOf]
    cases flagOf? t <;> simp [Assignment.number?]

/-- A value is assigned to a flag if it is given to that field and is on or off. -/
theorem flag?_assignmentsOf (f : FlagField) (p : CommandField × Token) :
    (assignmentsOf p).filterMap (Assignment.flag? f) =
      if CommandField.flag f = p.1 then (flagOf? p.2).toList else [] := by
  obtain ⟨g | g, t⟩ := p
  · rw [assignmentsOf]
    cases numberOf? t <;> simp [Assignment.flag?]
  · rw [assignmentsOf]
    cases flagOf? t with
    | none => simp
    | some b => by_cases hg : f = g <;> simp [Assignment.flag?, hg, eq_comm]

/-- Of fields that are named once each, one is given what stands with its name. -/
theorem filterMap_assignmentsOf {α : Type} {given : Assignment → Option α}
    {valueOf : Token → Option α} {field : CommandField}
    (hgiven : ∀ p, (assignmentsOf p).filterMap given =
      if field = p.1 then (valueOf p.2).toList else [])
    {fields : List (CommandField × Token)} (hnodup : (fields.map Prod.fst).Nodup) :
    (fields.flatMap assignmentsOf).filterMap given =
      ((fields.lookup field).bind valueOf).toList := by
  induction fields with
  | nil => rfl
  | cons p fields ih =>
    obtain ⟨hnew, hrest⟩ := List.nodup_cons.1 hnodup
    rw [List.flatMap_cons, List.filterMap_append, hgiven, ih hrest, List.lookup_cons]
    -- The field is the first one, and then no other is the same.
    by_cases hp : field = p.1
    · subst hp
      have hmissing : fields.lookup p.1 = none := by
        rw [List.lookup_eq_none_iff]
        intro q hq
        simpa using fun hname : p.1 = q.1 => hnew (hname ▸ List.mem_map_of_mem hq)
      rw [if_pos rfl, beq_self_eq_true, hmissing, Option.bind_none, Option.toList_none,
        List.append_nil, Option.bind_some]
    · rw [if_neg hp, beq_false_of_ne hp, List.nil_append]

/-- The changes that values by name ask for, if they are understood. -/
def changesOf (members : List (String × Token)) : Option (List Assignment) :=
  (fieldsOfMembers members).bind fun fields =>
    if (decide (fields.map Prod.fst).Nodup && fields.all fun p => fits p.1 p.2) then
      some (fields.flatMap assignmentsOf)
    else none

/-- The changes of a line are those of its values. -/
theorem changes?_eq (cs : List Char) :
    changes? cs = ((Token.scan cs).bind namedOfTokens).bind changesOf := by
  unfold changes?
  rw [Option.bind_assoc]
  show (Token.scan cs).bind _ = _
  congr 1
  funext tokens
  rw [fieldsOfTokens_eq]
  show (Option.bind _ _).bind _ = _
  rw [Option.bind_assoc]
  congr 1
  funext members
  rw [Option.bind_assoc, changesOf]
  congr 1
  funext fields
  -- What comes after the fields are known: they are told apart, and each value has to fit.
  by_cases hnodup : (fields.map Prod.fst).Nodup
  · rw [if_pos hnodup, Option.bind_some, mapM_change?, decide_eq_true hnodup, Bool.true_and]
    split
    · rfl
    · rfl
  · rw [if_neg hnodup, decide_eq_false hnodup]
    rfl

theorem getLastD_toList {α : Type} (x : Option α) (before : α) :
    x.toList.getLastD before = x.getD before := by
  cases x <;> rfl

/-- Making the changes of all fields is the update. Field by field: what is assigned to it is the
value under its name, if there is one. -/
theorem assignAll_flatMap {fields : List (CommandField × Token)}
    (hnodup : (fields.map Prod.fst).Nodup) (c : RobotCommand) :
    c.assignAll (fields.flatMap assignmentsOf) = (updateOf (byName fields)).applyTo c := by
  have hfollows := c.follows_assignAll (fields.flatMap assignmentsOf)
  refine RobotCommand.eq_of_fields (RobotCommand.timeStamp_assignAll c _) (fun f => ?_)
    fun f => ?_
  · rw [hfollows.number, RobotCommand.number_applyTo, Assignment.lastNumber,
      filterMap_assignmentsOf (number?_assignmentsOf f) hnodup, getLastD_toList, ← lookup_byName]
    rfl
  · rw [hfollows.flag, RobotCommand.flag_applyTo, Assignment.lastFlag,
      filterMap_assignmentsOf (flag?_assignmentsOf f) hnodup, getLastD_toList, ← lookup_byName]
    rfl

/-- Values by name ask for changes exactly when they are understood, and these make the update. -/
theorem changesOf_cases (members : List (String × Token)) :
    (understood members = false ∧ changesOf members = none) ∨
      understood members = true ∧ ∃ changes, changesOf members = some changes ∧
        ∀ c : RobotCommand, c.assignAll changes = (updateOf members).applyTo c := by
  cases hfields : fieldsOfMembers members with
  | none =>
    refine .inl ⟨?_, by rw [changesOf, hfields, Option.bind_none]⟩
    -- Names that are all understood are names of fields, so these members would have had fields.
    by_contra hunderstood
    obtain ⟨fields, hnamed⟩ := exists_fields_of_understood (by simpa using hunderstood)
    rw [fieldsOfMembers_eq_some_iff.2 hnamed] at hfields
    exact absurd hfields (by simp)
  | some fields =>
    obtain rfl := fieldsOfMembers_eq_some_iff.1 hfields
    rw [changesOf, hfields, Option.bind_some, understood_byName]
    cases hfit : decide (fields.map Prod.fst).Nodup && fields.all fun p => fits p.1 p.2 with
    | false => exact .inl ⟨rfl, rfl⟩
    | true =>
      rw [Bool.and_eq_true, decide_eq_true_eq] at hfit
      exact .inr ⟨rfl, _, rfl, assignAll_flatMap hfit.1⟩

/-- **A line is one update**, which is made as a whole if the line is understood, and else not at
all. -/
theorem apply_eq (line : String) (c : RobotCommand) :
    apply line c = ((update? line).isSome, (update line).applyTo c) := by
  rw [apply, changes?_eq, update, update?]
  cases (Token.scan (Text.trimChars line.toList)).bind namedOfTokens with
  | none => rfl
  | some members =>
    rw [Option.bind_some, Option.bind_some]
    rcases changesOf_cases members with ⟨hrefused, hnone⟩ | ⟨hunderstood, changes, hsome, hchanges⟩
    · rw [hrefused, hnone]
      rfl
    · rw [hunderstood, hsome]
      exact congrArg (true, ·) (hchanges c)

/-! ## Lines in turn

A field does not see the lines that say nothing about it. -/

/-- The record after lines in turn. -/
def applyAll (lines : List String) (c : RobotCommand) : RobotCommand :=
  lines.foldl (fun c line => (apply line c).2) c

theorem applyAll_cons (line : String) (lines : List String) (c : RobotCommand) :
    applyAll (line :: lines) c = applyAll lines ((update line).applyTo c) := by
  rw [applyAll, List.foldl_cons, apply_eq, applyAll]

/-- Of a row of values the last one holds, and what came before the row only if it is empty. -/
theorem getLastD_filterMap_cons {α β : Type} (given : α → Option β) (x : α) (xs : List α)
    (before : β) : ((x :: xs).filterMap given).getLastD before =
      (xs.filterMap given).getLastD ((given x).getD before) := by
  cases hx : given x with
  | none => rw [List.filterMap_cons_none hx, Option.getD_none]
  | some y => rw [List.filterMap_cons_some hx, Option.getD_some, List.getLastD_cons]

/-- **The last writer wins**: after lines in turn a field has the last value that one of them gave
it, and keeps its own if none did. -/
theorem applyAll_fields (lines : List String) (c : RobotCommand) :
    (applyAll lines c).timeStamp = c.timeStamp ∧
      (∀ f, (applyAll lines c).number f =
        (lines.filterMap fun line => (update line).number f).getLastD (c.number f)) ∧
      ∀ f, (applyAll lines c).flag f =
        (lines.filterMap fun line => (update line).flag f).getLastD (c.flag f) := by
  induction lines generalizing c with
  | nil => exact ⟨rfl, fun _ => rfl, fun _ => rfl⟩
  | cons line lines ih =>
    obtain ⟨htime, hnumber, hflag⟩ := ih ((update line).applyTo c)
    rw [applyAll_cons]
    refine ⟨htime.trans (RobotCommand.timeStamp_applyTo _ c), fun f => ?_, fun f => ?_⟩
    · rw [hnumber, getLastD_filterMap_cons, RobotCommand.number_applyTo]
    · rw [hflag, getLastD_filterMap_cons, RobotCommand.flag_applyTo]

/-- **Command lines are atomic, and the last writer wins.**  A line that is not understood leaves
the record as it is; one that is gives each field that it names with a value other than `null` that
value.  After any lines in turn a field has the value that the last of them to give it one gave, and
its first value if none did; the time stamp is never changed.  So two lines in turn make one update,
the later over the earlier, and a line that is repeated changes nothing. -/
theorem last_line_wins :
    (∀ line c, apply line c = ((update? line).isSome, (update line).applyTo c) ∧
        ((apply line c).1 = false → (apply line c).2 = c)) ∧
      (∀ lines c, (applyAll lines c).timeStamp = c.timeStamp ∧
        (∀ f, (applyAll lines c).number f =
          (lines.filterMap fun line => (update line).number f).getLastD (c.number f)) ∧
        ∀ f, (applyAll lines c).flag f =
          (lines.filterMap fun line => (update line).flag f).getLastD (c.flag f)) ∧
      (∀ line later c,
        (apply later (apply line c).2).2 = ((update later).laidOver (update line)).applyTo c) ∧
      ∀ line c, apply line (apply line c).2 = apply line c := by
  refine ⟨fun line c => ⟨apply_eq line c, fun hrefused => ?_⟩, applyAll_fields,
    fun line later c => ?_, fun line c => ?_⟩
  · rw [apply_eq] at hrefused ⊢
    have hnone : update? line = none := by simpa using hrefused
    rw [update, hnone]
    exact CommandUpdate.applyTo_none c
  · rw [apply_eq, apply_eq, CommandUpdate.applyTo_laidOver]
  · rw [apply_eq, apply_eq, ← CommandUpdate.applyTo_laidOver, CommandUpdate.laidOver_self]

/-- A forward speed, then a `null` for it beside a speed to the side, and then a line that ends
before its brace is closed. -/
def velocityLines : List String :=
  ["\x7b\"vx\": 1.5, \"fire\": true\x7d", "\x7b\"vx\": null, \"vy\": -2\x7d",
    "\x7b\"vx\": 7, \"vy\": 7"]

/-- The speeds are one and a half and minus two. -/
theorem last_line_wins_velocity :
    (applyAll velocityLines .idle).vx = ⟨0x3fc00000⟩ ∧
      (applyAll velocityLines .idle).vy = ⟨0xc0000000⟩ ∧
      (applyAll velocityLines .idle).wz = RobotCommand.idle.wz ∧
      (applyAll velocityLines .idle).fire = true := by
  obtain ⟨-, hnumber, hflag⟩ := last_line_wins.2.1 velocityLines .idle
  refine ⟨(hnumber .vx).trans ?_, (hnumber .vy).trans ?_, (hnumber .wz).trans ?_,
    (hflag .fire).trans ?_⟩
  all_goals decide +kernel

end CommandLine

end ControllerLink
