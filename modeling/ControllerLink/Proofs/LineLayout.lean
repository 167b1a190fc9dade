/-
# The layout of command lines

A command line is an object or an array as it is written: the texts of its
tokens in turn, with gaps between them and blanks at its ends.  What it asks for
depends on the tokens alone, and every line that is understood as an object is
laid out in this way.

Tokens are spelled one by one, and a line is a list of such words with gaps
between them (`LineOf`).  Objects and arrays have the same shape, blocks between
commas within two marks, so that scanning is proved once for `listed` blocks and
then read for members and for items.  The other direction takes a line that was
scanned apart into its words, and the words into members.
-/
import ControllerLink.Proofs.CommandUpdates
import ControllerLink.Proofs.SpacedTexts
import Mathlib.Data.List.Forall2

set_option autoImplicit false

namespace ControllerLink

namespace CommandLine

open Json (Token)
open Json.Token (Spaced Spells IsGap Parted)

theorem isBlank_of_isGap {c : Char} (h : Token.isGap c = true) : Text.isBlank c = true := by
  rcases Token.eq_of_isGap h with rfl | rfl | rfl | rfl <;> decide

/-- No mark holds a blank, so trimming a line does not touch the marks at its ends. -/
theorem isBlank_of_mem_mark {t : Token} {c : Char} (hc : c ∈ t.mark) : Text.isBlank c = false := by
  cases t with
  | leftBrace | rightBrace | leftBracket | rightBracket | colon | comma =>
    rw [List.mem_singleton.1 hc]
    decide
  | null | bool _ | number _ | str _ => exact absurd hc (by simp [Token.mark])

theorem mark_ne_nil {t : Token} (h : t.isMark = true) : t.mark ≠ [] :=
  (Token.spells_mark h).ne_nil

/-- That a line is some texts in turn, with gaps around and between them and blanks at its ends. -/
def LineOf (words : List (List Char)) (line : String) : Prop :=
  ∃ lead text trail, line.toList = lead ++ (text ++ trail) ∧
    (∀ c ∈ lead, Text.isBlank c = true) ∧ (∀ c ∈ trail, Text.isBlank c = true) ∧
      Spaced words text

/-- Texts without any gaps are a line of them. -/
theorem lineOf_flatten (words : List (List Char)) : LineOf words (String.ofList words.flatten) := by
  refine ⟨[], words.flatten, [], by simp, by simp, by simp, ?_⟩
  induction words with
  | nil => exact .nil (by simp [IsGap])
  | cons w words ih => exact ih.touch

/-- The last of some texts, and the gap behind it. -/
theorem exists_last_of_spaced {words : List (List Char)} {w text : List Char}
    (h : Spaced (words ++ [w]) text) :
    ∃ front gap, text = front ++ (w ++ gap) ∧ IsGap gap ∧ Spaced (words ++ [w]) (front ++ w) := by
  induction words generalizing text with
  | nil =>
    obtain _ | @⟨gap, _, behind, _, hgap, hbehind⟩ := h
    obtain ⟨hlast⟩ := hbehind
    refine ⟨gap, behind, rfl, hlast, ?_⟩
    -- A single word, which may still have a gap before it.
    have halone : Spaced [w] (gap ++ (w ++ [])) := .cons hgap (.nil (by simp [IsGap]))
    rwa [List.append_nil] at halone
  | cons w' words ih =>
    obtain _ | @⟨gap, _, behind, _, hgap, hbehind⟩ := h
    obtain ⟨front, gap', rfl, hgap', hfront⟩ := ih hbehind
    refine ⟨gap ++ (w' ++ front), gap', by simp, hgap', ?_⟩
    rw [List.append_assoc, List.append_assoc]
    exact .cons hgap hfront

/-- **Trimming leaves the texts of a line as they are**, if the first and the last are marks. -/
theorem LineOf.spaced_trimChars {t t' : Token} {words : List (List Char)} {line : String}
    (h : LineOf (t.mark :: (words ++ [t'.mark])) line) (ht : t.isMark = true)
    (ht' : t'.isMark = true) :
    Spaced (t.mark :: (words ++ [t'.mark])) (Text.trimChars line.toList) := by
  obtain ⟨lead, text, trail, hline, hlead, htrail, hspaced⟩ := h
  obtain _ | @⟨gap, _, behind, _, hgap, hbehind⟩ := hspaced
  obtain ⟨front, gap', rfl, hgap', hfront⟩ := exists_last_of_spaced hbehind
  -- The blanks at the ends and the gaps next to them are trimmed together, up to the two marks.
  have hcore : line.toList =
      (lead ++ gap) ++ ((t.mark ++ (front ++ t'.mark)) ++ (gap' ++ trail)) := by
    rw [hline]
    simp
  rw [hcore, Text.trimChars_append]
  · exact hfront.touch
  · intro c hc
    rcases List.mem_append.1 hc with hc | hc
    · exact hlead c hc
    · exact isBlank_of_isGap (hgap c hc)
  · intro c hc
    rcases List.mem_append.1 hc with hc | hc
    · exact isBlank_of_isGap (hgap' c hc)
    · exact htrail c hc
  · exact List.append_ne_nil_of_left_ne_nil (mark_ne_nil ht) _
  · intro c hc
    refine isBlank_of_mem_mark (t := t) (List.mem_of_mem_head? ?_)
    rwa [List.head?_append_of_ne_nil _ (mark_ne_nil ht)] at hc
  · intro c hc
    refine @isBlank_of_mem_mark t' _ (List.mem_of_mem_getLast? ?_)
    rwa [List.getLast?_append_of_ne_nil _ (List.append_ne_nil_of_right_ne_nil _ (mark_ne_nil ht')),
      List.getLast?_append_of_ne_nil _ (mark_ne_nil ht')] at hc

/-! ## Blocks between commas

A block is a list of tokens: a name, a colon and a value for a member, a value alone for an item. -/

/-- An opening mark, blocks with a comma between any two of them, and a closing mark. -/
def listed {α : Type} (opening comma closing : α) : List (List α) → List α
  | [] => [opening, closing]
  | block :: blocks => opening :: (block ++ (blocks.flatMap (comma :: ·) ++ [closing]))

/-- Where a block stands among others. A comma before each block, or a comma behind each: the two
differ in where they begin. -/
theorem listed_append_cons {α : Type} (opening comma closing : α) (before : List (List α))
    (block : List α) (after : List (List α)) :
    listed opening comma closing (before ++ block :: after) =
      opening :: (before.flatMap (· ++ [comma]) ++
        (block ++ (after.flatMap (comma :: ·) ++ [closing]))) := by
  cases before with
  | nil => rfl
  | cons first before =>
    have hcommas : ∀ rest : List α, before.flatMap (comma :: ·) ++ comma :: rest =
        comma :: (before.flatMap (· ++ [comma]) ++ rest) := by
      intro rest
      clear first
      induction before generalizing rest with
      | nil => rfl
      | cons next before ih => simp [ih]
    rw [List.cons_append, listed, List.flatMap_append, List.flatMap_cons, List.flatMap_cons]
    simp [hcommas]

/-- What is in one of two lists that belong together belongs to something in the other. -/
theorem exists_of_forall₂_mem {α β : Type} {R : α → β → Prop} {items : List α} {others : List β}
    (h : List.Forall₂ R items others) {a : α} (ha : a ∈ items) : ∃ b ∈ others, R a b := by
  induction h with
  | nil => exact absurd ha (by simp)
  | cons hfirst _ ih =>
    rcases List.mem_cons.1 ha with rfl | ha
    · exact ⟨_, List.mem_cons_self, hfirst⟩
    · obtain ⟨b, hb, hrest⟩ := ih ha
      exact ⟨b, List.mem_cons_of_mem _ hb, hrest⟩

/-- Rows that correspond to two parts are cut in two at the same place. -/
theorem exists_of_forall₂_append {α β : Type} {R : α → β → Prop} {front back : List α}
    {others : List β} (h : List.Forall₂ R (front ++ back) others) :
    ∃ others₁ others₂, others = others₁ ++ others₂ ∧ List.Forall₂ R front others₁ ∧
      List.Forall₂ R back others₂ := by
  have hfront := List.forall₂_take front.length h
  have hback := List.forall₂_drop front.length h
  rw [List.take_left] at hfront
  rw [List.drop_left] at hback
  exact ⟨_, _, (List.take_append_drop _ _).symm, hfront, hback⟩

section Marks

variable {opening closing : Token}

/-- Blocks of tokens and of texts that belong together do so with commas too. -/
theorem spells_listed (hopening : opening.isMark = true) (hclosing : closing.isMark = true)
    {blocks : List (List Token)} {texts : List (List (List Char))}
    (h : List.Forall₂ (List.Forall₂ Spells) blocks texts) :
    List.Forall₂ Spells (listed opening .comma closing blocks)
      (listed opening.mark Token.comma.mark closing.mark texts) := by
  have hend : List.Forall₂ Spells [closing] [closing.mark] :=
    .cons (Token.spells_mark hclosing) .nil
  cases h with
  | nil => exact .cons (Token.spells_mark hopening) hend
  | cons hfirst hrest =>
    refine .cons (Token.spells_mark hopening) (List.rel_append hfirst (List.rel_append ?_ hend))
    exact List.rel_flatMap hrest fun _ _ hblock => .cons rfl hblock

/-- Texts of blocks with commas are blocks of texts with commas. Behind the first block every other
one has a comma in front of it. -/
theorem exists_of_spells_listed (hopening : opening.isMark = true)
    (hclosing : closing.isMark = true) {blocks : List (List Token)} {words : List (List Char)}
    (h : List.Forall₂ Spells (listed opening .comma closing blocks) words) :
    ∃ texts, List.Forall₂ (List.Forall₂ Spells) blocks texts ∧
      words = listed opening.mark Token.comma.mark closing.mark texts := by
  have hrest : ∀ {blocks : List (List Token)} {words : List (List Char)},
      List.Forall₂ Spells (blocks.flatMap (.comma :: ·)) words →
        ∃ texts, List.Forall₂ (List.Forall₂ Spells) blocks texts ∧
          words = texts.flatMap (Token.comma.mark :: ·) := by
    intro blocks
    induction blocks with
    | nil =>
      rintro _ ⟨⟩
      exact ⟨[], .nil, rfl⟩
    | cons block blocks ih =>
      intro words hwords
      rw [List.flatMap_cons] at hwords
      obtain ⟨_, words₂, rfl, hfirst, hbehind⟩ := exists_of_forall₂_append hwords
      obtain ⟨texts, htexts, rfl⟩ := ih hbehind
      obtain _ | ⟨hcomma, hblock⟩ := hfirst
      rw [hcomma.eq_mark rfl]
      exact ⟨_ :: texts, .cons hblock htexts, rfl⟩
  cases blocks with
  | nil =>
    obtain _ | ⟨hfirst, _ | ⟨hlast, _ | _⟩⟩ := h
    rw [hfirst.eq_mark hopening, hlast.eq_mark hclosing]
    exact ⟨[], .nil, rfl⟩
  | cons block blocks =>
    obtain _ | ⟨hfirst, h⟩ := h
    obtain ⟨text, _, rfl, hblock, h⟩ := exists_of_forall₂_append h
    obtain ⟨_, _, rfl, hblocks, hend⟩ := exists_of_forall₂_append h
    obtain ⟨texts, htexts, rfl⟩ := hrest hblocks
    obtain _ | ⟨hlast, _ | _⟩ := hend
    rw [hfirst.eq_mark hopening, hlast.eq_mark hclosing]
    exact ⟨text :: texts, .cons hblock htexts, rfl⟩

/-- A mark may stand in front of anything. -/
theorem parted_cons {t : Token} {tokens : List Token} (ht : t.isMark = true)
    (h : Parted tokens) : Parted (t :: tokens) :=
  List.isChain_cons.2 ⟨fun _ _ => .inl ht, h⟩

/-- Blocks of tokens may follow each other if each begins with a mark. -/
theorem parted_append {block tokens : List Token} (hblock : Parted block) (h : Parted tokens)
    (hmark : ∀ t ∈ tokens.head?, t.isMark = true) : Parted (block ++ tokens) :=
  List.isChain_append.2 ⟨hblock, h, fun _ _ t ht => .inr (hmark t ht)⟩

/-- With marks around them and commas between them blocks are parted if each of them is. Behind the
first block, too, every block begins with a mark. -/
theorem parted_listed (hopening : opening.isMark = true) (hclosing : closing.isMark = true)
    {blocks : List (List Token)} (h : ∀ block ∈ blocks, Parted block) :
    Parted (listed opening .comma closing blocks) := by
  have hrest : ∀ blocks : List (List Token), (∀ block ∈ blocks, Parted block) →
      Parted (blocks.flatMap (.comma :: ·) ++ [closing]) ∧
        ∀ t ∈ (blocks.flatMap (.comma :: ·) ++ [closing]).head?, t.isMark = true := by
    intro blocks hblocks
    induction blocks with
    | nil =>
      refine ⟨.singleton closing, ?_⟩
      rintro _ ⟨⟩
      exact hclosing
    | cons block blocks ih =>
      obtain ⟨hbehind, hmark⟩ := ih fun b hb => hblocks b (List.mem_cons_of_mem _ hb)
      rw [List.flatMap_cons, List.append_assoc, List.cons_append]
      refine ⟨parted_cons rfl (parted_append (hblocks block List.mem_cons_self) hbehind hmark), ?_⟩
      rintro _ ⟨⟩
      rfl
  cases blocks with
  | nil => exact parted_cons hopening (.singleton closing)
  | cons block blocks =>
    obtain ⟨hbehind, hmark⟩ := hrest blocks fun b hb => h b (List.mem_cons_of_mem _ hb)
    exact parted_cons hopening (parted_append (h block List.mem_cons_self) hbehind hmark)

/-- A line without the blanks at its ends is a row of words with gaps between them. -/
theorem LineOf.spaced_listed (hopening : opening.isMark = true) (hclosing : closing.isMark = true)
    {texts : List (List (List Char))} {line : String}
    (h : LineOf (listed opening.mark Token.comma.mark closing.mark texts) line) :
    Spaced (listed opening.mark Token.comma.mark closing.mark texts)
      (Text.trimChars line.toList) := by
  cases texts with
  | nil => exact @LineOf.spaced_trimChars _ _ [] _ h hopening hclosing
  | cons text texts =>
    rw [listed, ← List.append_assoc] at h ⊢
    exact h.spaced_trimChars hopening hclosing

/-- **A line of blocks with commas is scanned to the tokens of these blocks.** -/
theorem scan_listed (hopening : opening.isMark = true) (hclosing : closing.isMark = true)
    {blocks : List (List Token)} {texts : List (List (List Char))} {line : String}
    (hspells : List.Forall₂ (List.Forall₂ Spells) blocks texts)
    (hparted : ∀ block ∈ blocks, Parted block)
    (h : LineOf (listed opening.mark Token.comma.mark closing.mark texts) line) :
    Token.scan (Text.trimChars line.toList) = some (listed opening .comma closing blocks) :=
  Token.scan_of_spaced (spells_listed hopening hclosing hspells)
    (parted_listed hopening hclosing hparted) (h.spaced_listed hopening hclosing)

end Marks

/-! ## Objects and arrays -/

/-- A member of an object as it is written: its name and its value. -/
structure MemberText where
  name : List Char
  value : List Char

/-- The texts of the tokens of a member. -/
def MemberText.words (text : MemberText) : List (List Char) :=
  [text.name, Token.colon.mark, text.value]

/-- That the texts of a member are those of a name and of a value. -/
structure MemberText.Spells (m : String × Token) (text : MemberText) : Prop where
  name : Token.Spells (.str m.1) text.name
  value : Token.Spells m.2 text.value
  isValue : isValue m.2 = true

/-- The texts of the tokens of an object. -/
def objectWords (texts : List MemberText) : List (List Char) :=
  listed Token.leftBrace.mark Token.comma.mark Token.rightBrace.mark (texts.map MemberText.words)

/-- The texts of the tokens of an array. -/
def arrayWords (values : List (List Char)) : List (List Char) :=
  listed Token.leftBracket.mark Token.comma.mark Token.rightBracket.mark (values.map fun v => [v])

/-- The tokens of a member. -/
def memberTokens (m : String × Token) : List Token :=
  [.str m.1, .colon, m.2]

/-- The members of an object are read from its tokens. -/
theorem scanMembers_eq {m : String × Token} {ms : List (String × Token)}
    (hvalues : ∀ m' ∈ m :: ms, isValue m'.2 = true) :
    scanMembers (memberTokens m ++
      ((ms.map memberTokens).flatMap (.comma :: ·) ++ [.rightBrace])) = some (m :: ms) := by
  induction ms generalizing m with
  | nil => exact if_pos (hvalues m List.mem_cons_self)
  | cons m' ms ih =>
    have hrest := @ih m' fun m'' hm'' => hvalues m'' (List.mem_cons_of_mem _ hm'')
    rw [List.map_cons, List.flatMap_cons, List.append_assoc]
    refine (if_pos (hvalues m List.mem_cons_self)).trans ?_
    exact congrArg (Option.map (m :: ·)) hrest

/-- What is read as the members of an object are the tokens of members. -/
theorem exists_of_scanMembers {tokens : List Token} {ms : List (String × Token)}
    (h : scanMembers tokens = some ms) :
    ∃ m later, ms = m :: later ∧ tokens = memberTokens m ++
        ((later.map memberTokens).flatMap (.comma :: ·) ++ [.rightBrace]) ∧
      ∀ m' ∈ ms, isValue m'.2 = true := by
  fun_induction scanMembers tokens generalizing ms with
  | case1 name value rest hvalue ih =>
    obtain ⟨ms', hms', rfl⟩ := Option.map_eq_some_iff.1 h
    obtain ⟨m, later, rfl, rfl, hvalues⟩ := ih hms'
    refine ⟨(name, value), m :: later, rfl, rfl, ?_⟩
    rintro m' (_ | ⟨_, hm'⟩)
    · exact hvalue
    · exact hvalues m' hm'
  | case3 name value hvalue =>
    obtain rfl := Option.some.inj h
    refine ⟨(name, value), [], rfl, rfl, ?_⟩
    rintro m' (_ | ⟨_, ⟨⟩⟩)
    exact hvalue
  | case2 | case4 | case5 => exact absurd h (by simp)

/-- The items of an array are read from its tokens. -/
theorem scanItems_eq {item : Token} {items : List Token}
    (hvalues : ∀ t ∈ item :: items, isValue t = true) :
    scanItems (item :: ((items.map fun t => [t]).flatMap (.comma :: ·) ++ [.rightBracket])) =
      some (item :: items) := by
  induction items generalizing item with
  | nil => exact if_pos (hvalues item List.mem_cons_self)
  | cons item' items ih =>
    have hrest := @ih item' fun t ht => hvalues t (List.mem_cons_of_mem _ ht)
    rw [List.map_cons, List.flatMap_cons, List.append_assoc]
    refine (if_pos (hvalues item List.mem_cons_self)).trans ?_
    exact congrArg (Option.map (item :: ·)) hrest

/-- An object has the values of its members. -/
theorem namedOfTokens_object {ms : List (String × Token)}
    (hvalues : ∀ m ∈ ms, isValue m.2 = true) :
    namedOfTokens (listed .leftBrace .comma .rightBrace (ms.map memberTokens)) = some ms := by
  cases ms with
  | nil => rfl
  | cons m ms =>
    rw [List.map_cons, listed, namedOfTokens]
    · exact scanMembers_eq hvalues
    · exact fun h => absurd h (by simp [memberTokens])

/-- Tokens of which the first is an opening brace have values by name only if they are an
object. -/
theorem eq_of_namedOfTokens {tokens : List Token} {ms : List (String × Token)}
    (h : namedOfTokens (.leftBrace :: tokens) = some ms) :
    .leftBrace :: tokens = listed .leftBrace .comma .rightBrace (ms.map memberTokens) ∧
      ∀ m ∈ ms, isValue m.2 = true := by
  unfold namedOfTokens at h
  split at h
  · next hempty =>
    obtain rfl := Option.some.inj h
    exact ⟨hempty, by simp⟩
  · next rest hrest =>
    rw [List.cons.injEq] at hrest
    obtain ⟨-, rfl⟩ := hrest
    obtain ⟨m, later, rfl, rfl, hvalues⟩ := exists_of_scanMembers h
    exact ⟨rfl, hvalues⟩
  · next hbracket => exact absurd hbracket (by simp)
  · exact absurd h (by simp)

/-- An array has its values under the names of the fields, in order. -/
theorem namedOfTokens_array {items : List Token} (hvalues : ∀ t ∈ items, isValue t = true)
    (hlength : items.length = CommandField.all.length) :
    namedOfTokens (listed .leftBracket .comma .rightBracket (items.map fun t => [t])) =
      some ((CommandField.all.map CommandField.name).zip items) := by
  cases items with
  | nil => exact absurd hlength (by decide)
  | cons item items =>
    rw [List.map_cons, listed, namedOfTokens, List.singleton_append, scanItems_eq hvalues,
      Option.bind_some, if_pos hlength]

/-- The tokens of one member are parted: a mark stands between its name and its value. -/
theorem parted_members (ms : List (String × Token)) :
    ∀ block ∈ ms.map memberTokens, Parted block := by
  intro block hblock
  obtain ⟨m, -, rfl⟩ := List.mem_map.1 hblock
  exact List.isChain_cons.2 ⟨by rintro _ ⟨⟩; exact .inr rfl, parted_cons rfl (.singleton m.2)⟩

/-- The tokens of members are spelled by their texts. -/
theorem spells_members {ms : List (String × Token)} {texts : List MemberText}
    (h : List.Forall₂ MemberText.Spells ms texts) :
    List.Forall₂ (List.Forall₂ Spells) (ms.map memberTokens) (texts.map MemberText.words) := by
  rw [List.forall₂_map_left_iff, List.forall₂_map_right_iff]
  exact h.imp fun _ _ hm => .cons hm.name (.cons rfl (.cons hm.value .nil))

/-- Texts of the tokens of members are texts of members. Three words: a name, a colon, which has
only one text, and a value. -/
theorem exists_of_spells_members {ms : List (String × Token)} {blocks : List (List (List Char))}
    (hvalues : ∀ m ∈ ms, isValue m.2 = true)
    (h : List.Forall₂ (List.Forall₂ Spells) (ms.map memberTokens) blocks) :
    ∃ texts, List.Forall₂ MemberText.Spells ms texts ∧ blocks = texts.map MemberText.words := by
  rw [List.forall₂_map_left_iff] at h
  induction h with
  | nil => exact ⟨[], .nil, rfl⟩
  | cons hfirst _ ih =>
    obtain ⟨texts, htexts, rfl⟩ := ih fun m hm => hvalues m (List.mem_cons_of_mem _ hm)
    obtain _ | ⟨hname, _ | ⟨hcolon, _ | ⟨hvalue, _ | _⟩⟩⟩ := hfirst
    rw [hcolon.eq_mark rfl]
    exact ⟨⟨_, _⟩ :: texts, .cons ⟨hname, hvalue, hvalues _ List.mem_cons_self⟩ htexts, rfl⟩

/-- Whatever is spelled as the value of a member is a value. -/
theorem isValue_of_spells {ms : List (String × Token)} {texts : List MemberText}
    (h : List.Forall₂ MemberText.Spells ms texts) : ∀ m ∈ ms, isValue m.2 = true := by
  intro m hm
  obtain ⟨_, -, hspells⟩ := exists_of_forall₂_mem h hm
  exact hspells.isValue

/-- **What an object asks for** depends on its members alone. -/
theorem update?_object {ms : List (String × Token)} {texts : List MemberText} {line : String}
    (hspells : List.Forall₂ MemberText.Spells ms texts) (h : LineOf (objectWords texts) line) :
    update? line = if understood ms then some (updateOf ms) else none := by
  rw [update?, scan_listed rfl rfl (spells_members hspells) (parted_members ms) h,
    Option.bind_some, namedOfTokens_object (isValue_of_spells hspells), Option.bind_some]

/-- **What an array asks for** depends on its values alone. -/
theorem update?_array {items : List Token} {values : List (List Char)} {line : String}
    (hspells : List.Forall₂ Spells items values) (hvalues : ∀ t ∈ items, isValue t = true)
    (hlength : items.length = CommandField.all.length) (h : LineOf (arrayWords values) line) :
    update? line =
      if understood ((CommandField.all.map CommandField.name).zip items) then
        some (updateOf ((CommandField.all.map CommandField.name).zip items))
      else none := by
  have hblocks : List.Forall₂ (List.Forall₂ Spells) (items.map fun t => [t])
      (values.map fun v => [v]) := by
    rw [List.forall₂_map_left_iff, List.forall₂_map_right_iff]
    exact hspells.imp fun _ _ ht => .cons ht .nil
  have hparted : ∀ block ∈ items.map fun t => [t], Parted block := by
    intro block hblock
    obtain ⟨t, -, rfl⟩ := List.mem_map.1 hblock
    exact .singleton t
  rw [update?, scan_listed rfl rfl hblocks hparted h, Option.bind_some,
    namedOfTokens_array hvalues hlength, Option.bind_some]

/-- **A line that is understood as an object is laid out as one.** -/
theorem exists_object {line : String} (hobject : (Text.trimChars line.toList).head? = some '\x7b')
    (h : (update? line).isSome = true) :
    ∃ ms texts, List.Forall₂ MemberText.Spells ms texts ∧ LineOf (objectWords texts) line := by
  obtain ⟨u, hu⟩ := Option.isSome_iff_exists.1 h
  obtain ⟨ms, hms, -⟩ := Option.bind_eq_some_iff.1 hu
  obtain ⟨tokens, hscan, hnamed⟩ := Option.bind_eq_some_iff.1 hms
  obtain ⟨cs, hcs⟩ : ∃ cs, Text.trimChars line.toList = '\x7b' :: cs := by
    cases htrimmed : Text.trimChars line.toList with
    | nil => exact absurd (htrimmed ▸ hobject) (by simp)
    | cons c cs =>
      rw [htrimmed] at hobject
      rw [Option.some.inj hobject]
      exact ⟨cs, rfl⟩
  -- The first character is an opening brace, and so is the first token.
  obtain ⟨tokens, rfl⟩ : ∃ rest, tokens = .leftBrace :: rest := by
    rw [hcs, Token.scan_of_scanOne (t := .leftBrace) rfl] at hscan
    obtain ⟨rest, -, rfl⟩ := Option.map_eq_some_iff.1 hscan
    exact ⟨rest, rfl⟩
  obtain ⟨hlisted, hvalues⟩ := eq_of_namedOfTokens hnamed
  obtain ⟨words, hwords, hspaced⟩ := Token.exists_spaced hscan
  -- The words of the line are those of the blocks of an object, and each block is a member.
  rw [hlisted] at hwords
  obtain ⟨blocks, hblocks, rfl⟩ := exists_of_spells_listed rfl rfl hwords
  obtain ⟨texts, hspells, rfl⟩ := exists_of_spells_members hvalues hblocks
  obtain ⟨lead, trail, hline, hlead, htrail⟩ := Text.exists_trimChars line.toList
  exact ⟨ms, texts, hspells, lead, _, trail, hline, hlead, htrail, hspaced⟩

end CommandLine

end ControllerLink
