/-
# Tokens with gaps around them

A document is scanned to some tokens exactly if it is their texts in turn, with
gaps around and between them; how wide the gaps are makes no difference.  A
comma in any text ends a token, unless it stands inside of a string.

`Spaced words text` says that a text is some words with gaps. That such a text
is scanned to the tokens of its words needs a condition on neighbours, for two
numbers without a gap are one number: of two tokens next to each other one is a
mark (`Token.Parted`). The tokens of a document are always so. The last part is
about texts of which nothing is known: wherever a comma stands, a token ends
before it, or it is within a string (`Token.scan_comma`).
-/
import ControllerLink.Proofs.TokenTexts
import Mathlib.Data.List.Chain

set_option autoImplicit false

namespace ControllerLink

namespace Json

namespace Token

variable {cs behind : List Char}

/-! ## Gaps -/

/-- That all characters of a text may stand between tokens. -/
def IsGap (gap : List Char) : Prop := ∀ c ∈ gap, isGap c = true

theorem eq_of_isGap {c : Char} (h : isGap c = true) : c = ' ' ∨ c = '\t' ∨ c = '\n' ∨ c = '\r' := by
  simpa [isGap, or_assoc] using h

theorem scanOne_of_isGap {c : Char} (h : isGap c = true) (cs : List Char) :
    scanOne (c :: cs) = none := by
  rcases eq_of_isGap h with rfl | rfl | rfl | rfl <;> rfl

/-- Behind a gap a token does not go on. -/
theorem IsGap.firm {gap : List Char} (h : IsGap gap) (hbehind : gap = [] → Firm behind) :
    Firm (gap ++ behind) := by
  cases gap with
  | nil => exact hbehind rfl
  | cons c gap =>
    intro d hd
    rw [← Option.some.inj hd]
    rcases eq_of_isGap (h c List.mem_cons_self) with rfl | rfl | rfl | rfl <;> decide

/-- A scan passes over what may stand between tokens, and then takes one. -/
theorem scan_eq (cs : List Char) :
    scan cs = if cs.dropWhile isGap = [] then some [] else
      (scanOne (cs.dropWhile isGap)).bind fun r => (scan r.2).map (r.1 :: ·) := by
  rw [scan.eq_def]
  split
  · next hnil => rw [if_pos hnil]
  · next c rest hcons =>
    rw [if_neg (by simp [hcons]), hcons]
    split
    · next hnone => rw [hnone, Option.bind_none]
    · next t behind hsome => rw [hsome, Option.bind_some]

/-- A gap in front of tokens is passed over. -/
theorem scan_gap_append {gap : List Char} (h : IsGap gap) (cs : List Char) :
    scan (gap ++ cs) = scan cs := by
  rw [scan_eq (gap ++ cs), List.dropWhile_append_of_pos h, ← scan_eq]

/-- A gap alone holds no token. -/
theorem scan_gap {gap : List Char} (h : IsGap gap) : scan gap = some [] := by
  rw [← gap.append_nil, scan_gap_append h, scan_eq]
  rfl

/-- A text that begins with a token is scanned to it and what is behind it. -/
theorem scan_of_scanOne {t : Token} (h : scanOne cs = some (t, behind)) :
    scan cs = (scan behind).map (t :: ·) := by
  have hfront : cs.dropWhile isGap = cs := by
    cases cs with
    | nil => rfl
    | cons c cs =>
      refine List.dropWhile_cons_of_neg fun hgap => ?_
      rw [scanOne_of_isGap hgap] at h
      exact absurd h (by simp)
  have hne : cs ≠ [] := by
    rintro rfl
    exact absurd h (by simp [scanOne])
  rw [scan_eq, hfront, if_neg hne, h, Option.bind_some]

/-! ## Texts with gaps -/

/-- That a text is some others in turn, with gaps around and between them. -/
inductive Spaced : List (List Char) → List Char → Prop where
  | nil {gap : List Char} (hgap : IsGap gap) : Spaced [] gap
  | cons {gap w text : List Char} {words : List (List Char)} (hgap : IsGap gap)
      (hbehind : Spaced words text) : Spaced (w :: words) (gap ++ (w ++ text))

/-- A gap can be empty. -/
theorem Spaced.touch {w text : List Char} {words : List (List Char)} (h : Spaced words text) :
    Spaced (w :: words) (w ++ text) :=
  @Spaced.cons [] _ _ _ (by simp [IsGap]) h

/-- Whether of two tokens next to each other one is a mark. -/
def Parted (tokens : List Token) : Prop :=
  tokens.IsChain fun t t' => t.isMark = true ∨ t'.isMark = true

/-- A text of gaps and tokens is firm if it begins with a gap or with a mark, or is empty. -/
theorem Spaced.firm {t : Token} {words : List (List Char)} {text : List Char}
    (h : Spaced words text) (hhead : ∀ w ∈ words.head?, w = t.mark ∧ t.isMark = true) :
    Firm text := by
  cases h with
  | nil hgap =>
    rw [← List.append_nil text]
    exact hgap.firm fun _ => by simp [Firm]
  | cons hgap hbehind =>
    obtain ⟨hw, hmark⟩ := hhead _ rfl
    rw [hw]
    exact hgap.firm fun _ => firm_mark_append hmark

/-- **A text that begins with tokens is scanned to them**, and then to what the rest of it is. -/
theorem scan_of_spaced_append {tokens : List Token} {words words' : List (List Char)}
    {text : List Char} (hspells : List.Forall₂ Spells tokens words) (hparted : Parted tokens)
    (hlast : ∀ t ∈ tokens.getLast?, t.isMark = true ∨ words' = [])
    (h : Spaced (words ++ words') text) :
    ∃ text', Spaced words' text' ∧ scan text = (scan text').map (tokens ++ ·) := by
  induction hspells generalizing text with
  | nil => exact ⟨text, h, by simp⟩
  | @cons t w tokens words hw hspells ih =>
    rw [List.cons_append] at h
    obtain _ | @⟨gap, _, behind, _, hgap, hbehind⟩ := h
    obtain ⟨hnext, hparted⟩ := List.isChain_cons.1 hparted
    -- The first token does not go on: it is a mark, or a gap or a mark comes next.
    have hends : t.isMark = true ∨ Firm behind := by
      cases hspells with
      | nil =>
        refine (hlast t rfl).imp_right ?_
        rintro rfl
        exact hbehind.firm (t := comma) (by simp)
      | @cons t' w' _ _ hw' =>
        refine (hnext t' rfl).imp_right fun hmark => @Spaced.firm t' _ _ hbehind ?_
        rintro _ ⟨⟩
        exact ⟨hw'.eq_mark hmark, hmark⟩
    -- The last token is the same one, unless this was it.
    have hlast' : ∀ t' ∈ tokens.getLast?, t'.isMark = true ∨ words' = [] := by
      intro t' ht'
      cases tokens with
      | nil => exact absurd ht' (by simp)
      | cons t'' tokens => exact hlast t' (by rwa [List.getLast?_cons_cons])
    obtain ⟨text', htext', hscan⟩ := ih hparted hlast' hbehind
    refine ⟨text', htext', ?_⟩
    rw [scan_gap_append hgap, scan_of_scanOne (hw.scanOne_append hends), hscan, Option.map_map]
    rfl

/-- **The texts of tokens with any gaps are scanned to these tokens.** -/
theorem scan_of_spaced {tokens : List Token} {words : List (List Char)} {text : List Char}
    (hspells : List.Forall₂ Spells tokens words) (hparted : Parted tokens)
    (h : Spaced words text) : scan text = some tokens := by
  rw [← words.append_nil] at h
  obtain ⟨gap, hgap, hscan⟩ := scan_of_spaced_append hspells hparted (fun _ _ => .inr rfl) h
  obtain ⟨hgap⟩ := hgap
  rw [hscan, scan_gap hgap, Option.map_some, List.append_nil]

/-- **What is scanned to tokens is their texts with gaps.** -/
theorem exists_spaced {tokens : List Token} (h : scan cs = some tokens) :
    ∃ words, List.Forall₂ Spells tokens words ∧ Spaced words cs := by
  induction hlength : cs.length using Nat.strongRecOn generalizing cs tokens with
  | ind n ih =>
    subst hlength
    have hgap : IsGap (cs.takeWhile isGap) := fun c hc => List.mem_takeWhile_imp hc
    have hsplit : cs.takeWhile isGap ++ cs.dropWhile isGap = cs :=
      List.takeWhile_append_dropWhile
    rw [scan_eq] at h
    split at h
    · next hnil =>
      obtain rfl := Option.some.inj h
      rw [hnil, List.append_nil] at hsplit
      rw [← hsplit]
      exact ⟨[], .nil, .nil hgap⟩
    · obtain ⟨⟨t, behind⟩, hone, h⟩ := Option.bind_eq_some_iff.1 h
      obtain ⟨tokens', htokens', rfl⟩ := Option.map_eq_some_iff.1 h
      obtain ⟨w, hw, hne, -, htakes⟩ := exists_text hone
      -- A token has at least one character.
      have hshorter : behind.length < cs.length := by
        have hle := congrArg List.length hsplit
        have hpos := List.length_pos_iff.2 hne
        rw [hw, List.length_append, List.length_append] at hle
        omega
      obtain ⟨words, hspells, hspaced⟩ := ih _ hshorter htokens' rfl
      -- What was taken is taken on its own too.
      have hspell : Spells t w := by
        have halone := htakes [] (.inr (by simp [Firm]))
        rwa [List.append_nil] at halone
      refine ⟨w :: words, .cons hspell hspells, ?_⟩
      rw [← hsplit, hw]
      exact .cons hgap hspaced

/-! ## Commas -/

/-- **A comma ends a token**, and what is behind it is scanned on its own, unless the comma is one
of a string. -/
theorem scan_comma {u : List Char} {tokens : List Token}
    (h : scan (u ++ ',' :: behind) = some tokens) :
    (∃ before tokens', scan behind = some tokens' ∧ tokens = before ++ comma :: tokens') ∨
      ∃ s, str s ∈ tokens ∧ ',' ∈ s.toList := by
  induction hlength : u.length using Nat.strongRecOn generalizing u tokens with
  | ind n ih =>
    subst hlength
    cases u with
    | nil =>
      rw [List.nil_append, scan_of_scanOne (t := comma) rfl] at h
      obtain ⟨tokens', htokens', rfl⟩ := Option.map_eq_some_iff.1 h
      exact .inl ⟨[], tokens', htokens', rfl⟩
    | cons c u =>
      by_cases hgap : isGap c = true
      · have hskip : scan (c :: (u ++ ',' :: behind)) = scan (u ++ ',' :: behind) :=
          scan_gap_append (show IsGap [c] by simpa [IsGap] using hgap) _
        rw [List.cons_append, hskip] at h
        exact ih u.length (Nat.lt_succ_self _) h rfl
      · rw [scan_eq, List.cons_append, List.dropWhile_cons_of_neg hgap,
          if_neg (List.cons_ne_nil _ _)] at h
        obtain ⟨⟨t, rest⟩, hone, h⟩ := Option.bind_eq_some_iff.1 h
        obtain ⟨tokens', htokens', rfl⟩ := Option.map_eq_some_iff.1 h
        obtain ⟨w, hw, hne, hcomma, -⟩ := exists_text hone
        -- If the token ends before the comma, the comma is found behind it.
        have hlater : ∀ {u' : List Char}, rest = u' ++ ',' :: behind →
            u'.length < (c :: u).length →
            (∃ before tokens'', scan behind = some tokens'' ∧
              t :: tokens' = before ++ comma :: tokens'') ∨
              ∃ s, str s ∈ t :: tokens' ∧ ',' ∈ s.toList := by
          intro u' hrest hshorter
          dsimp only at htokens'
          rw [hrest] at htokens'
          rcases ih _ hshorter htokens' rfl with ⟨before, tokens'', hbehind, heq⟩ | ⟨s, hs, hmem⟩
          · exact .inl ⟨t :: before, tokens'', hbehind, congrArg (t :: ·) heq⟩
          · exact .inr ⟨s, List.mem_cons_of_mem _ hs, hmem⟩
        rw [← List.cons_append] at hw
        rcases List.append_eq_append_iff.1 hw with ⟨v, hv, hrest⟩ | ⟨v, hv, hrest⟩
        · -- The token reaches up to the comma at least.
          cases v with
          | nil => exact @hlater [] hrest.symm (Nat.zero_lt_succ _)
          | cons d v =>
            rw [List.cons_append, List.cons.injEq] at hrest
            rcases hcomma (by rw [hv, ← hrest.1]; simp) with ⟨-, hw⟩ | ⟨s, rfl, hs⟩
            · rw [hw] at hv
              have hlength := congrArg List.length hv
              simp only [List.length_append, List.length_cons, List.length_nil] at hlength
              omega
            · exact .inr ⟨s, List.mem_cons_self, hs⟩
        · refine hlater hrest ?_
          have hlength := congrArg List.length hv
          have hpos := List.length_pos_iff.2 hne
          rw [List.length_append] at hlength
          omega

end Token

end Json

end ControllerLink
