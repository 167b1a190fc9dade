/-
# The presentation of command lines

What an object asks for does not depend on the order of its members, on the gaps
between its tokens, or on members that leave a known field as it is; and the
array of the same values asks for the same.  An object in which a name is
unknown or comes twice is refused, wherever that member stands and whatever is
written as its value.

What an object asks for is a function of the values that its fields have in it
(`valueIn`), where a field without a member has the value `null`.  Each change
of presentation is one that leaves these values alone: putting the members in
another order, adding members that are `null`, writing the values into an array.
Gaps are no change of the tokens at all.
-/
import ControllerLink.Proofs.LineLayout
import Mathlib.Data.List.Perm.Basic

set_option autoImplicit false

namespace ControllerLink

namespace CommandLine

open Json (Token)
open Json.Token (Spaced Spells Parted)

/-! ## The values of an object -/

section Members

variable {ms ms' : List (String × Token)} {fields : List CommandField}

/-- The value that an object has for a field, `null` if it lacks the field. -/
def valueIn (ms : List (String × Token)) (f : CommandField) : Token :=
  (ms.lookup f.name).getD .null

/-- A value that is not there reads as one that changes nothing. -/
theorem bind_lookup_eq {α : Type} {valueOf : Token → Option α} (hnull : valueOf .null = none)
    (ms : List (String × Token)) (f : CommandField) :
    (ms.lookup f.name).bind valueOf = valueOf (valueIn ms f) := by
  rw [valueIn]
  cases ms.lookup f.name with
  | none => exact hnull.symm
  | some value => rfl

/-- **What an object asks for depends on the values that it has for the fields.** -/
theorem updateOf_congr (h : ∀ f, valueIn ms f = valueIn ms' f) : updateOf ms = updateOf ms' := by
  have hnumber : numberOf? .null = none := rfl
  have hflag : flagOf? .null = none := rfl
  simp only [updateOf, bind_lookup_eq hnumber, bind_lookup_eq hflag, h]

/-! ## Members in another order -/

/-- If no name comes twice, a name has the value of its member. -/
theorem lookup_eq_some_iff_mem (hnodup : (ms.map Prod.fst).Nodup) {name : String} {value : Token} :
    ms.lookup name = some value ↔ (name, value) ∈ ms := by
  induction ms with
  | nil => simp
  | cons m ms ih =>
    rw [List.map_cons, List.nodup_cons] at hnodup
    rw [List.lookup_cons, List.mem_cons]
    -- The name is that of the first member, which then no other has, or the first one does not
    -- matter.
    by_cases hname : name = m.1
    · subst hname
      rw [beq_self_eq_true]
      constructor
      · intro h
        exact .inl (Prod.ext rfl (Option.some.inj h).symm)
      · rintro (h | h)
        · exact congrArg some (congrArg Prod.snd h).symm
        · exact absurd (List.mem_map_of_mem h) hnodup.1
    · rw [beq_false_of_ne hname]
      refine (ih hnodup.2).trans ⟨.inr, fun h => h.resolve_left ?_⟩
      rintro rfl
      exact hname rfl

/-- An object that is understood names no field twice. -/
theorem nodup_of_understood (h : understood ms = true) : (ms.map Prod.fst).Nodup := by
  rw [understood, Bool.and_eq_true, decide_eq_true_eq] at h
  exact h.1

/-- Every member that is understood has the name of a field that its value fits. -/
theorem exists_field_of_understood (h : understood ms = true) {m : String × Token} (hm : m ∈ ms) :
    ∃ field : CommandField, field.name = m.1 ∧ fits field m.2 = true := by
  rw [understood, Bool.and_eq_true, List.all_eq_true] at h
  obtain ⟨field, hfield, hfits⟩ := (Option.any_eq_true _ _).1 (h.2 m hm)
  exact ⟨field, CommandField.name_of_ofName? hfield, hfits⟩

/-- Whether an object is understood does not depend on the order of its members. -/
theorem understood_perm (h : ms.Perm ms') : understood ms = understood ms' := by
  rw [understood, understood]
  congr 1
  · exact decide_eq_decide.2 (h.map Prod.fst).nodup_iff
  · rw [Bool.eq_iff_iff, List.all_eq_true, List.all_eq_true]
    exact forall_congr' fun m => by rw [h.mem_iff]

/-- The order of members makes no difference, if no name comes twice. A name has at most one member,
so finding the first is finding the only one. -/
theorem updateOf_perm (hnodup : (ms.map Prod.fst).Nodup) (h : ms.Perm ms') :
    updateOf ms = updateOf ms' := by
  have hlookup : ∀ f : CommandField, ms.lookup f.name = ms'.lookup f.name := by
    intro f
    ext value
    rw [lookup_eq_some_iff_mem hnodup,
      lookup_eq_some_iff_mem ((h.map Prod.fst).nodup_iff.1 hnodup), h.mem_iff]
  refine updateOf_congr fun f => ?_
  rw [valueIn, valueIn, hlookup]

/-! ## Members that change nothing -/

/-- Members with the names of fields and no value. -/
def nullsOf (fields : List CommandField) : List (String × Token) :=
  fields.map fun f => (f.name, .null)

/-- Nulls for fields that are not named may be added: they are named once then, and fit. -/
theorem understood_nullsOf_append (hnodup : fields.Nodup)
    (habsent : ∀ f ∈ fields, f.name ∉ ms.map Prod.fst) (h : understood ms = true) :
    understood (nullsOf fields ++ ms) = true := by
  have hnames : (nullsOf fields).map Prod.fst = fields.map CommandField.name := by
    rw [nullsOf, List.map_map]
    rfl
  rw [understood, Bool.and_eq_true, decide_eq_true_eq] at h ⊢
  refine ⟨?_, ?_⟩
  · rw [List.map_append, hnames, List.nodup_append]
    -- Their names differ from each other and from those that are there already.
    refine ⟨hnodup.map CommandField.name_injective, h.1, ?_⟩
    rintro name hname _ hname' rfl
    obtain ⟨f, hf, rfl⟩ := List.mem_map.1 hname
    exact habsent f hf hname'
  · rw [List.all_append, Bool.and_eq_true]
    refine ⟨List.all_eq_true.2 fun m hm => ?_, h.2⟩
    obtain ⟨f, -, rfl⟩ := List.mem_map.1 hm
    rw [CommandField.ofName?_name]
    cases f <;> rfl

/-- Members without a value for fields that are absent change nothing. -/
theorem updateOf_nullsOf_append (habsent : ∀ f ∈ fields, f.name ∉ ms.map Prod.fst) :
    updateOf (nullsOf fields ++ ms) = updateOf ms := by
  refine updateOf_congr fun f => ?_
  rw [valueIn, valueIn, List.lookup_append]
  cases hfront : (nullsOf fields).lookup f.name with
  | none => rw [Option.none_or]
  | some value =>
    -- The field is one of those that were absent, and it was absent behind them as well.
    obtain ⟨before, after, hsplit, -⟩ := List.lookup_eq_some_iff.1 hfront
    have hmem : (f.name, value) ∈ nullsOf fields := by simp [hsplit]
    obtain ⟨f', hf', hsame⟩ := List.mem_map.1 hmem
    obtain ⟨hname, rfl⟩ := Prod.mk.inj hsame
    have hnone : ms.lookup f.name = none := by
      rw [List.lookup_eq_none_iff]
      intro m hm
      rw [bne_iff_ne, ← hname]
      exact fun hknown => habsent f' hf' (hknown ▸ List.mem_map_of_mem hm)
    rw [hnone]
    rfl

/-! ## The array of the same values -/

/-- The names of all fields with their values in an object are the fields of the array by name. -/
theorem zip_valueIn (ms : List (String × Token)) :
    (CommandField.all.map CommandField.name).zip (CommandField.all.map (valueIn ms)) =
      byName (CommandField.all.map fun f => (f, valueIn ms f)) := by
  rw [byName, List.map_map, List.zip_map']
  rfl

theorem mem_all (f : CommandField) : f ∈ CommandField.all := by
  obtain ⟨f⟩ | ⟨f⟩ := f <;> cases f <;> decide

/-- An object that is understood gives every field a value that fits, or `null`. -/
theorem fits_valueIn (h : understood ms = true) (f : CommandField) :
    fits f (valueIn ms f) = true := by
  rw [valueIn]
  cases hlookup : ms.lookup f.name with
  | none => cases f <;> rfl
  | some value =>
    rw [lookup_eq_some_iff_mem (nodup_of_understood h)] at hlookup
    obtain ⟨field, hfield, hfits⟩ := exists_field_of_understood h hlookup
    obtain rfl := CommandField.name_injective hfield
    exact hfits

/-- The values of an object are no punctuation, and neither is `null`. -/
theorem isValue_valueIn (hvalues : ∀ m ∈ ms, isValue m.2 = true) (f : CommandField) :
    isValue (valueIn ms f) = true := by
  rw [valueIn]
  cases hlookup : ms.lookup f.name with
  | none => rfl
  | some value =>
    obtain ⟨before, after, rfl, -⟩ := List.lookup_eq_some_iff.1 hlookup
    exact hvalues (f.name, value) (by simp)

/-- So the array of the values of an object is understood as the object is. -/
theorem understood_valueIn (h : understood ms = true) :
    understood (byName (CommandField.all.map fun f => (f, valueIn ms f))) = true := by
  rw [understood_byName, Bool.and_eq_true, decide_eq_true_eq, List.map_map, List.all_eq_true]
  refine ⟨show CommandField.all.Nodup by decide, fun p hp => ?_⟩
  obtain ⟨f, -, rfl⟩ := List.mem_map.1 hp
  exact fits_valueIn h f

/-- **The array of the values that an object has asks for what the object asks for.** -/
theorem updateOf_valueIn (ms : List (String × Token)) :
    updateOf (byName (CommandField.all.map fun f => (f, valueIn ms f))) = updateOf ms := by
  refine updateOf_congr fun f => ?_
  rw [valueIn, lookup_byName, List.lookup_graph _ (mem_all f)]
  rfl

end Members

/-! ## Members too many -/

section Refusals

variable {ms : List (String × Token)} {tokens tokens' : List Token}

/-- Members that end in commas are read before what is behind them. -/
theorem exists_of_scanMembers_append {before : List (String × Token)}
    (h : scanMembers ((before.map memberTokens).flatMap (· ++ [.comma]) ++ tokens) = some ms) :
    ∃ later, scanMembers tokens = some later ∧ ms = before ++ later := by
  induction before generalizing ms with
  | nil => exact ⟨ms, h, rfl⟩
  | cons m before ih =>
    rw [List.map_cons, List.flatMap_cons, List.append_assoc, List.append_assoc] at h
    have hstep : scanMembers (memberTokens m ++ ([.comma] ++
        ((before.map memberTokens).flatMap (· ++ [.comma]) ++ tokens))) =
        if isValue m.2 then
          (scanMembers ((before.map memberTokens).flatMap (· ++ [.comma]) ++ tokens)).map (m :: ·)
        else none := rfl
    rw [hstep, Option.ite_none_right_eq_some] at h
    obtain ⟨ms', hms', rfl⟩ := Option.map_eq_some_iff.1 h.2
    obtain ⟨later, hlater, rfl⟩ := ih hms'
    exact ⟨later, hlater, rfl⟩

/-- The first member has the name that comes first. -/
theorem exists_of_scanMembers_cons {name : String}
    (h : scanMembers (.str name :: tokens) = some ms) :
    ∃ value later, ms = (name, value) :: later := by
  obtain ⟨m, later, rfl, htokens, -⟩ := exists_of_scanMembers h
  obtain ⟨hname, -⟩ := List.cons.inj htokens
  rw [Token.str.injEq] at hname
  exact ⟨m.2, later, by rw [hname]⟩

/-- No comma stands among the tokens of a member; this is what lets a scan be cut at its commas. -/
theorem comma_notMem_memberTokens {m : String × Token} (hvalue : isValue m.2 = true) :
    .comma ∉ memberTokens m := by
  intro hcomma
  have hm : .comma = m.2 := by simpa [memberTokens] using hcomma
  exact absurd hvalue (by simp [← hm, isValue])

/-- Every comma stands behind a member. Comma by comma: it is the one behind the first member, or
one behind a later member. -/
theorem exists_of_scanMembers_comma (h : scanMembers (tokens ++ .comma :: tokens') = some ms) :
    ∃ front back, front ≠ [] ∧ scanMembers tokens' = some back ∧ ms = front ++ back := by
  obtain ⟨m, later, rfl, htokens, hvalues⟩ := exists_of_scanMembers h
  clear h
  induction later generalizing m tokens with
  | nil =>
    have hmem : .comma ∈ memberTokens m ++ [.rightBrace] := by
      rw [← List.nil_append [Token.rightBrace]]
      exact htokens ▸ (by simp)
    rcases List.mem_append.1 hmem with hmember | hbrace
    · exact absurd hmember (comma_notMem_memberTokens (hvalues m List.mem_cons_self))
    · exact absurd hbrace (by simp)
  | cons m' later ih =>
    have hlater : ∀ m'' ∈ m' :: later, isValue m''.2 = true := fun m'' hm'' =>
      hvalues m'' (List.mem_cons_of_mem _ hm'')
    rw [List.map_cons, List.flatMap_cons, List.append_assoc, List.cons_append] at htokens
    -- It cannot stand within the first member, so it stands at its end or behind it.
    rcases List.append_eq_append_iff.1 htokens with ⟨v, hmember, hrest⟩ | ⟨v, -, hrest⟩
    · cases v with
      | nil =>
        obtain ⟨-, rfl⟩ := List.cons.inj hrest
        exact ⟨[m], m' :: later, by simp, scanMembers_eq hlater, rfl⟩
      | cons t v =>
        obtain ⟨rfl, -⟩ := List.cons.inj hrest
        refine absurd ?_ (comma_notMem_memberTokens (hvalues m List.mem_cons_self))
        rw [hmember]
        simp
    · cases v with
      | nil =>
        obtain ⟨-, rfl⟩ := List.cons.inj hrest
        exact ⟨[m], m' :: later, by simp, scanMembers_eq hlater, rfl⟩
      | cons t v =>
        obtain ⟨-, hrest⟩ := List.cons.inj hrest
        obtain ⟨front, back, -, hback, heq⟩ := ih m' hrest.symm hlater
        exact ⟨m :: front, back, by simp, hback, congrArg (m :: ·) heq⟩

/-- No name of a field and no value that fits one has a comma in it. -/
theorem comma_notMem_of_understood {s : String} (h : understood ms = true)
    (hscan : scanMembers tokens = some ms) (hs : .str s ∈ tokens) : ',' ∉ s.toList := by
  have hname : ∀ field : CommandField, ',' ∉ field.name.toList := by
    rintro (f | f) <;> cases f <;> decide
  obtain ⟨m, later, rfl, htokens, -⟩ := exists_of_scanMembers hscan
  -- A string among the tokens of an object is the name or the value of a member.
  obtain ⟨m', hm', hs'⟩ : ∃ m' ∈ m :: later, .str s ∈ memberTokens m' := by
    rw [htokens, List.mem_append, List.mem_append, List.mem_flatMap] at hs
    rcases hs with hfirst | ⟨block, hblock, hs⟩ | hlast
    · exact ⟨m, List.mem_cons_self, hfirst⟩
    · obtain ⟨m', hm', rfl⟩ := List.mem_map.1 hblock
      exact ⟨m', List.mem_cons_of_mem _ hm', (List.mem_cons.1 hs).resolve_left (by simp)⟩
    · exact absurd hlast (by simp)
  obtain ⟨field, hfield, hfits⟩ := exists_field_of_understood h hm'
  have hcases : s = m'.1 ∨ .str s = m'.2 := by simpa [memberTokens] using hs'
  rcases hcases with rfl | hvalue
  · rw [← hfield]
    exact hname field
  · rw [← hvalue] at hfits
    cases field <;> exact absurd hfits (by simp [fits, numberOf?, flagOf?])

/-- Behind an opening brace that is not closed at once there are members. -/
theorem scanMembers_of_namedOfTokens (h : namedOfTokens (.leftBrace :: tokens) = some ms)
    (hne : tokens ≠ [.rightBrace]) : scanMembers tokens = some ms := by
  rw [namedOfTokens] at h
  · exact h
  · exact hne

/-- The tokens of an object up to the value of a member, which is behind others. -/
def tokensUpTo (before : List (String × Token)) (name : String) : List Token :=
  .leftBrace :: ((before.map memberTokens).flatMap (· ++ [.comma]) ++ [.str name, .colon])

/-- The texts of an object up to the value of a member, which is behind others. -/
def wordsUpTo (before : List MemberText) (name : List Char) : List (List Char) :=
  Token.leftBrace.mark :: ((before.map MemberText.words).flatMap (· ++ [Token.comma.mark]) ++
    [name, Token.colon.mark])

/-- The texts of an object behind the value of a member. -/
def wordsBehind (after : List MemberText) : List (List Char) :=
  (after.map MemberText.words).flatMap (Token.comma.mark :: ·) ++ [Token.rightBrace.mark]

/-- An object as it is written: what stands before the value of a member, the value, and what stands
behind it. -/
theorem objectWords_append_cons (before : List MemberText) (text : MemberText)
    (after : List MemberText) : objectWords (before ++ text :: after) =
      wordsUpTo before text.name ++ text.value :: wordsBehind after := by
  rw [objectWords, List.map_append, List.map_cons, listed_append_cons, wordsUpTo, wordsBehind,
    MemberText.words]
  simp

theorem wordsBehind_cons (text : MemberText) (after : List MemberText) :
    wordsBehind (text :: after) = Token.comma.mark :: (text.words ++ wordsBehind after) := by
  rw [wordsBehind, wordsBehind, List.map_cons, List.flatMap_cons, List.append_assoc]
  rfl

variable {before after : List MemberText} {befores afters : List (String × Token)}

/-- **Up to the value of a member an object is scanned as it is written**, whatever that value
is. -/
theorem scan_upTo (hbefore : List.Forall₂ MemberText.Spells befores before) {text : MemberText}
    {name : String} (hname : Spells (.str name) text.name) {cs : List Char}
    (h : Spaced (objectWords (before ++ text :: after)) cs) :
    ∃ cs', Spaced (text.value :: wordsBehind after) cs' ∧
      Token.scan cs = (Token.scan cs').map (tokensUpTo befores name ++ ·) := by
  have hspells : List.Forall₂ Spells (tokensUpTo befores name) (wordsUpTo before text.name) := by
    refine .cons rfl (List.rel_append ?_ (.cons hname (.cons rfl .nil)))
    exact List.rel_flatMap (spells_members hbefore) fun _ _ hblock =>
      List.rel_append hblock (.cons rfl .nil)
  -- The tokens are a front of those of a whole object, which are parted.
  have hparted : Parted (tokensUpTo befores name) := by
    have hwhole := @parted_listed .leftBrace .rightBrace rfl rfl _
      (parted_members (befores ++ [(name, .null)]))
    have hsplit : listed .leftBrace .comma .rightBrace
        ((befores ++ [(name, Token.null)]).map memberTokens) =
        tokensUpTo befores name ++ [Token.null, .rightBrace] := by
      rw [List.map_append, List.map_singleton, listed_append_cons, tokensUpTo, memberTokens]
      simp
    rw [hsplit] at hwhole
    exact hwhole.left_of_append
  have hlast : (tokensUpTo befores name).getLast? = some .colon := by
    rw [tokensUpTo, List.append_cons, ← List.cons_append, List.getLast?_concat]
  rw [objectWords_append_cons] at h
  refine Token.scan_of_spaced_append hspells hparted (fun t ht => .inl ?_) h
  rw [hlast] at ht
  rw [← Option.some.inj ht]
  rfl

/-- **Behind the value of a member the members that follow are scanned as they are written**,
whatever that value is, unless it swallows the comma before them into a string. -/
theorem scan_behind {text : MemberText} {m : String × Token}
    (hafter : List.Forall₂ MemberText.Spells (m :: afters) after) {cs : List Char}
    {tokens : List Token} (h : Spaced (text.value :: wordsBehind after) cs)
    (hscan : Token.scan cs = some tokens) :
    (∃ front back, tokens = front ++ .comma :: back ∧ scanMembers back = some (m :: afters)) ∨
      ∃ s, .str s ∈ tokens ∧ ',' ∈ s.toList := by
  obtain _ | @⟨_, next, _, after, hnext, hafter⟩ := hafter
  have hvalues := isValue_of_spells (.cons hnext hafter)
  let rest := memberTokens m ++
    ((afters.map memberTokens).flatMap (.comma :: ·) ++ [.rightBrace])
  have hspells := @spells_listed .leftBrace .rightBrace rfl rfl _ _
    (spells_members (.cons hnext hafter))
  have hparted := @parted_listed .leftBrace .rightBrace rfl rfl _ (parted_members (m :: afters))
  obtain _ | ⟨-, hspells⟩ := hspells
  have hrest : Parted rest := (List.isChain_cons.1 hparted).2
  rw [wordsBehind_cons] at h
  obtain _ | @⟨gap, _, _, _, hgap, hbehind⟩ := h
  obtain _ | @⟨gap', _, cs', _, hgap', hbehind⟩ := hbehind
  have hmembers : Token.scan cs' = some rest := Token.scan_of_spaced hspells hrest hbehind
  -- The text from the value on, cut at the comma behind it.
  have hcs : gap ++ (text.value ++ (gap' ++ (Token.comma.mark ++ cs'))) =
      (gap ++ (text.value ++ gap')) ++ ',' :: cs' := by
    simp [Token.mark]
  rw [hcs] at hscan
  rcases Token.scan_comma hscan with ⟨front, back, hback, rfl⟩ | hstring
  · rw [hmembers] at hback
    rw [← Option.some.inj hback]
    exact .inl ⟨front, rest, rfl, scanMembers_eq hvalues⟩
  · exact .inr hstring

/-- **An object with a member too many is refused**: its name is unknown or comes twice, whatever is
written as its value. -/
theorem update?_of_surplus (hbefore : List.Forall₂ MemberText.Spells befores before)
    (hafter : List.Forall₂ MemberText.Spells afters after) {text : MemberText} {name : String}
    (hname : Spells (.str name) text.name)
    (hsurplus : CommandField.ofName? name = none ∨ name ∈ (befores ++ afters).map Prod.fst)
    {line : String} (h : LineOf (objectWords (before ++ text :: after)) line) :
    update? line = none := by
  rw [← Option.not_isSome_iff_eq_none]
  intro hsome
  obtain ⟨u, hu⟩ := Option.isSome_iff_exists.1 hsome
  obtain ⟨ms, hms, hu⟩ := Option.bind_eq_some_iff.1 hu
  obtain ⟨tokens, hscan, hnamed⟩ := Option.bind_eq_some_iff.1 hms
  obtain ⟨hunderstood, -⟩ := Option.ite_none_right_eq_some.1 hu
  obtain ⟨cs, hcs, hupto⟩ := scan_upTo hbefore hname (h.spaced_listed rfl rfl)
  rw [hscan] at hupto
  obtain ⟨behind, hbehind, rfl⟩ := Option.map_eq_some_iff.1 hupto.symm
  -- The members that are read are those before, then one of this name, then whatever follows.
  have hmembers : scanMembers ((befores.map memberTokens).flatMap (· ++ [.comma]) ++
      (.str name :: .colon :: behind)) = some ms := by
    refine scanMembers_of_namedOfTokens ?_ fun hbrace => ?_
    · rw [tokensUpTo] at hnamed
      simpa using hnamed
    · have hmem : Token.str name ∈ [Token.rightBrace] := hbrace ▸ by simp
      exact absurd hmem (by simp)
  obtain ⟨later, hlater, rfl⟩ := exists_of_scanMembers_append hmembers
  obtain ⟨value, rest, hfirst⟩ := exists_of_scanMembers_cons hlater
  have hnodup := nodup_of_understood hunderstood
  rcases hsurplus with hunknown | hknown
  -- An unknown name is that of no field.
  · obtain ⟨field, hfield, -⟩ := exists_field_of_understood hunderstood (m := (name, value))
      (by simp [hfirst])
    obtain rfl : field.name = name := hfield
    rw [CommandField.ofName?_name] at hunknown
    exact absurd hunknown (by simp)
  rw [List.map_append, List.nodup_append] at hnodup
  rw [List.map_append, List.mem_append] at hknown
  -- A name that comes twice: the other member stands before this one, and was read, or behind it.
  rcases hknown with hearlier | hfollows
  · exact hnodup.2.2 name hearlier name (by simp [hfirst]) rfl
  · cases afters with
    | nil => exact absurd hfollows (by simp)
    | cons m afters =>
      rcases scan_behind hafter hcs hbehind with ⟨front, back, rfl, hback⟩ | ⟨s, hs, hcomma⟩
      -- The members behind were read as they are written, so the name came up again among them.
      · obtain ⟨first, back', hne, hback', rfl⟩ :=
          @exists_of_scanMembers_comma _ (.str name :: .colon :: front) _ hlater
        obtain rfl := Option.some.inj (hback.symm.trans hback')
        obtain ⟨first', later, rfl⟩ := List.exists_cons_of_ne_nil hne
        obtain ⟨rfl, -⟩ := List.cons.inj hfirst
        have htwice := hnodup.2.1
        rw [List.map_append, List.nodup_append] at htwice
        exact htwice.2.2 name (by simp) name hfollows rfl
      -- The value has swallowed a comma, and no object that is understood has a comma in a string.
      · refine comma_notMem_of_understood hunderstood hmembers ?_ hcomma
        simp [hs]

end Refusals

/-! ## Objects as they are written -/

/-- The text of no value. -/
def nullText : List Char := ['n', 'u', 'l', 'l']

namespace MemberText

/-- That one of some members has a name. -/
def HasName (texts : List MemberText) (name : String) : Prop :=
  ∃ text ∈ texts, Token.Spells (.str name) text.name

/-- That some members, without a value, have names of fields that others lack. -/
def AreNullsFor (texts nulls : List MemberText) : Prop :=
  ∃ fields : List CommandField, fields.Nodup ∧ (∀ f ∈ fields, ¬ HasName texts f.name) ∧
    List.Forall₂ (fun f null => Token.Spells (.str f.name) null.name ∧ null.value = nullText)
      fields nulls

/-- That a text is the value that some members have for a field, or `null` if they lack it. -/
def IsValueFor (texts : List MemberText) (f : CommandField) (value : List Char) : Prop :=
  (∃ text ∈ texts, Token.Spells (.str f.name) text.name ∧ text.value = value) ∨
    ¬ HasName texts f.name ∧ value = nullText

variable {ms : List (String × Token)} {texts : List MemberText}

/-- A text of a member has one name and one value. -/
theorem Spells.name_eq {m : String × Token} {text : MemberText} (h : Spells m text) {name : String}
    (hname : Token.Spells (.str name) text.name) : m.1 = name := by
  have hboth := h.name.symm.trans hname
  simpa using hboth

/-- A name that is written among members is the name of one of them. -/
theorem hasName_iff (h : List.Forall₂ Spells ms texts) (name : String) :
    HasName texts name ↔ name ∈ ms.map Prod.fst := by
  constructor
  · rintro ⟨text, htext, hname⟩
    obtain ⟨m, hm, hspells⟩ := exists_of_forall₂_mem h.flip htext
    rw [← hspells.name_eq hname]
    exact List.mem_map_of_mem hm
  · intro hname
    obtain ⟨m, hm, rfl⟩ := List.mem_map.1 hname
    obtain ⟨text, htext, hspells⟩ := exists_of_forall₂_mem h hm
    exact ⟨text, htext, hspells.name⟩

/-- The values that members have for the fields are read as those of the array. -/
theorem spells_values (h : List.Forall₂ Spells ms texts) (hnodup : (ms.map Prod.fst).Nodup)
    {fields : List CommandField} {values : List (List Char)}
    (hvalues : List.Forall₂ (IsValueFor texts) fields values) :
    List.Forall₂ Token.Spells (fields.map (valueIn ms)) values := by
  rw [List.forall₂_map_left_iff]
  refine hvalues.imp fun f value hvalue => ?_
  rw [valueIn]
  -- The field is named in the object, or it is missing and the array has `null` for it.
  rcases hvalue with ⟨text, htext, hname, rfl⟩ | ⟨hlacks, rfl⟩
  · obtain ⟨m, hm, hspells⟩ := exists_of_forall₂_mem h.flip htext
    have hlookup : ms.lookup f.name = some m.2 := by
      rw [lookup_eq_some_iff_mem hnodup, ← hspells.name_eq hname]
      exact hm
    rw [hlookup]
    exact hspells.value
  · have hlookup : ms.lookup f.name = none := by
      rw [hasName_iff h] at hlacks
      rw [List.lookup_eq_none_iff]
      intro m hm
      rw [bne_iff_ne]
      rintro heq
      exact hlacks (heq ▸ List.mem_map_of_mem hm)
    rw [hlookup]
    rfl

end MemberText

open MemberText (HasName AreNullsFor IsValueFor)

/-- **The presentation of a command line makes no difference.**  A line that is understood as an
object is laid out as one, with gaps and blanks of any width.  Put its members in any order,
together with members without a value for any fields that it lacks; write all of that with any gaps
between the tokens and any blanks at the ends: the line is understood and has the same effect.  So
does the array of its values, `null` for the fields that it lacks.  But put one member more among
its members, anywhere, with a name that is not that of a field or that the object has already, and
whatever is written as its value: the line is refused, and has no effect. -/
theorem presentation_is_free {line : String} {c : RobotCommand}
    (hobject : (Text.trimChars line.toList).head? = some '\x7b')
    (haccepted : (apply line c).1 = true) :
    ∃ texts : List MemberText, (∀ text ∈ texts, ∃ m, MemberText.Spells m text) ∧
      LineOf (objectWords texts) line ∧
      (∀ nulls texts' line', AreNullsFor texts nulls → (nulls ++ texts).Perm texts' →
        LineOf (objectWords texts') line' → apply line' c = apply line c) ∧
      (∀ values line', List.Forall₂ (IsValueFor texts) CommandField.all values →
        LineOf (arrayWords values) line' → apply line' c = apply line c) ∧
      ∀ before after name text line', texts = before ++ after →
        Token.Spells (.str name) text.name →
        (CommandField.ofName? name = none ∨ HasName texts name) →
        LineOf (objectWords (before ++ text :: after)) line' → apply line' c = (false, c) := by
  rw [apply_eq] at haccepted
  obtain ⟨ms, texts, hspells, hline⟩ := exists_object hobject haccepted
  have hupdate := update?_object hspells hline
  have hunderstood : understood ms = true := by
    by_contra hrefused
    rw [hupdate, if_neg hrefused] at haccepted
    exact absurd haccepted (by simp)
  rw [if_pos hunderstood] at hupdate
  have hnodup := nodup_of_understood hunderstood
  -- Two lines that ask for the same update have the same effect.
  have hsame : ∀ line', update? line' = some (updateOf ms) → apply line' c = apply line c := by
    intro line' hupdate'
    rw [apply_eq, apply_eq, update, update, hupdate, hupdate']
  refine ⟨texts, fun text htext => ?_, hline, ?_, ?_, ?_⟩
  · obtain ⟨m, -, hm⟩ := exists_of_forall₂_mem hspells.flip htext
    exact ⟨m, hm⟩
  · rintro nulls texts' line' ⟨fields, hfields, hlacks, hnulls⟩ hperm hline'
    -- What is not written in the object is not among the members that are read from it.
    have habsent : ∀ f ∈ fields, f.name ∉ ms.map Prod.fst := by
      intro f hf
      rw [← MemberText.hasName_iff hspells]
      exact hlacks f hf
    have hboth : List.Forall₂ MemberText.Spells (nullsOf fields ++ ms) (nulls ++ texts) := by
      refine List.rel_append ?_ hspells
      rw [nullsOf, List.forall₂_map_left_iff]
      exact hnulls.imp fun f null hnull => ⟨hnull.1, hnull.2 ▸ rfl, rfl⟩
    -- The tokens are put in the order in which their texts were put.
    obtain ⟨ms', hspells', hperm'⟩ := List.perm_comp_forall₂ hperm.symm hboth.flip
    have hunderstood' := understood_nullsOf_append hfields habsent hunderstood
    refine hsame line' ?_
    rw [update?_object hspells'.flip hline', understood_perm hperm', if_pos hunderstood',
      ← updateOf_perm (nodup_of_understood hunderstood') hperm'.symm,
      updateOf_nullsOf_append habsent]
  · intro values line' hvalues hline'
    refine hsame line' ?_
    rw [update?_array (MemberText.spells_values hspells hnodup hvalues) ?_ ?_ hline', zip_valueIn,
      if_pos (understood_valueIn hunderstood), updateOf_valueIn]
    · intro t ht
      obtain ⟨f, -, rfl⟩ := List.mem_map.1 ht
      exact isValue_valueIn (isValue_of_spells hspells) f
    · exact List.length_map ..
  · rintro before after name text line' rfl hname hsurplus hline'
    obtain ⟨befores, afters, rfl, hbefore, hafter⟩ := exists_of_forall₂_append hspells.flip
    rw [MemberText.hasName_iff hspells] at hsurplus
    have hnone := update?_of_surplus hbefore.flip hafter.flip hname hsurplus hline'
    rw [apply_eq, update, hnone]
    rfl

/-- Turned around and without any gaps, an object has the same effect. -/
theorem presentation_is_free_turned :
    (apply "  \x7b\"vx\" : 1.5,\"fire\":true\x7d" .idle).1 = true ∧
      ∃ texts line', LineOf (objectWords texts) "  \x7b\"vx\" : 1.5,\"fire\":true\x7d" ∧
        LineOf (objectWords texts.reverse) line' ∧
        apply line' .idle = apply "  \x7b\"vx\" : 1.5,\"fire\":true\x7d" .idle := by
  have haccepted : (apply "  \x7b\"vx\" : 1.5,\"fire\":true\x7d" .idle).1 = true := by
    decide +kernel
  obtain ⟨texts, -, hline, horder, -⟩ := presentation_is_free (by decide +kernel) haccepted
  refine ⟨haccepted, texts, _, hline, lineOf_flatten (objectWords texts.reverse), ?_⟩
  refine horder [] texts.reverse _ ⟨[], .nil, by simp, .nil⟩ ?_ (lineOf_flatten _)
  exact (List.reverse_perm texts).symm

end CommandLine

end ControllerLink
