/-
# How tokens are written

A token takes its own text off the front of a document and looks no further
than at the character behind it, which ends a number unless it could be one
more character of it.

All that is said of a token has the same form: what was scanned off a text is a
front of that text, and it would be scanned off in front of anything else that
does not go on with it. For a number this is put together from its sign, its
digits, its fraction and its exponent, each of which ends where the next one
begins (`Number.exists_text`). A string ends with its quote, whatever is behind
it; the pieces that it is written in are characters and escapes, each for one
character of the string (`Token.Writes`). Besides, each lemma says where a comma
can stand in the text, which is nowhere but in a string.
-/
import ControllerLink.Json.Token
import Mathlib.Data.List.Basic
import Mathlib.Data.List.TakeWhile

set_option autoImplicit false

namespace ControllerLink

namespace Json

/-- That a text does not begin with a character that could be one more of a number. -/
def Firm (behind : List Char) : Prop :=
  ∀ c ∈ behind.head?, c.isDigit = false ∧ c ≠ '.' ∧ c ≠ 'e' ∧ c ≠ 'E'

/-! ## Numbers -/

namespace Number

variable {cs rest : List Char}

/-- Digits in front of something that does not go on with a digit are all split off. -/
theorem spanDigits_append {digits behind : List Char} (hdigits : ∀ c ∈ digits, c.isDigit = true)
    (hbehind : ∀ c ∈ behind.head?, c.isDigit = false) :
    spanDigits (digits ++ behind) = (digits, behind) := by
  rw [spanDigits, List.takeWhile_append_of_pos hdigits, List.dropWhile_append_of_pos hdigits]
  cases behind with
  | nil => simp
  | cons c behind =>
    have hc : c.isDigit = false := hbehind c rfl
    rw [List.takeWhile_cons_of_neg (by simp [hc]), List.dropWhile_cons_of_neg (by simp [hc]),
      List.append_nil]

/-- The leading digits are digits, and the text is these and what is behind them. -/
theorem spanDigits_cases (cs : List Char) :
    cs = (spanDigits cs).1 ++ (spanDigits cs).2 ∧ ∀ c ∈ (spanDigits cs).1, c.isDigit = true :=
  ⟨List.takeWhile_append_dropWhile.symm, fun _ hc => List.mem_takeWhile_imp hc⟩

/-- A text that begins with digits begins with a digit. -/
theorem isDigit_of_mem_head? {digits behind : List Char}
    (hdigits : ∀ c ∈ digits, c.isDigit = true) (hne : digits ≠ []) :
    ∀ c ∈ (digits ++ behind).head?, c.isDigit = true := by
  intro c hc
  rw [List.head?_append_of_ne_nil _ hne] at hc
  exact hdigits c (List.mem_of_mem_head? hc)

theorem ne_comma_of_isDigit {c : Char} (h : c.isDigit = true) : c ≠ ',' := by
  rintro rfl
  exact absurd h (by decide)

/-- A minus sign is split off whatever is behind it. A digit behind no sign is not taken for one. -/
theorem exists_minus (cs : List Char) :
    ∃ sign, cs = sign ++ (splitMinus cs).2 ∧ ',' ∉ sign ∧
      ∀ behind, (∀ c ∈ behind.head?, c.isDigit = true) →
        splitMinus (sign ++ behind) = ((splitMinus cs).1, behind) := by
  unfold splitMinus
  split
  · next cs => exact ⟨['-'], rfl, by decide, fun _ _ => rfl⟩
  · refine ⟨[], rfl, by simp, fun behind hbehind => ?_⟩
    rw [List.nil_append]
    split
    · exact absurd (hbehind '-' rfl) (by decide)
    · rfl

/-- A sign is split off whatever is behind it. It is a plus, or else what a minus comes to; a digit
behind no sign is not taken for one. -/
theorem exists_sign (cs : List Char) :
    ∃ sign, cs = sign ++ (splitSign cs).2 ∧ ',' ∉ sign ∧
      ∀ behind, (∀ c ∈ behind.head?, c.isDigit = true) →
        splitSign (sign ++ behind) = ((splitSign cs).1, behind) := by
  unfold splitSign
  split
  · next cs => exact ⟨['+'], rfl, by decide, fun _ _ => rfl⟩
  · next hplus =>
    obtain ⟨sign, hcs, hcomma, hsplit⟩ := exists_minus cs
    refine ⟨sign, hcs, hcomma, fun behind hbehind => ?_⟩
    split
    · next behind' hsign =>
      cases sign with
      | nil =>
        rw [List.nil_append] at hsign
        rw [hsign] at hbehind
        exact absurd (hbehind '+' rfl) (by decide)
      | cons c sign =>
        rw [List.cons_append, List.cons.injEq] at hsign
        rw [hsign.1] at hcs
        exact absurd hcs (hplus _)
    · exact hsplit behind hbehind

/-- A fraction takes its own text, if no digit or point is behind it. -/
theorem exists_fraction {x : Option (List Char)} (h : scanFraction cs = some (x, rest)) :
    ∃ w, cs = w ++ rest ∧ ',' ∉ w ∧ (∀ c ∈ w.head?, c = '.') ∧
      ∀ behind, (∀ c ∈ behind.head?, c.isDigit = false ∧ c ≠ '.') →
        scanFraction (w ++ behind) = some (x, behind) := by
  unfold scanFraction at h
  -- A point with digits behind it, or no point at all.
  split at h
  · next cs =>
    obtain ⟨hcs, hdigits⟩ := spanDigits_cases cs
    dsimp only at h
    split at h
    · exact absurd h (by simp)
    · next hsome =>
      rw [Option.some.injEq, Prod.mk.injEq] at h
      obtain ⟨rfl, rfl⟩ := h
      refine ⟨'.' :: (spanDigits cs).1, congrArg ('.' :: ·) hcs, ?_, by simp, ?_⟩
      · rw [List.mem_cons, not_or]
        exact ⟨by decide, fun hcomma => ne_comma_of_isDigit (hdigits _ hcomma) rfl⟩
      · intro behind hbehind
        have hspan := spanDigits_append hdigits fun c hc => (hbehind c hc).1
        rw [List.cons_append, scanFraction, hspan, if_neg hsome]
  · rw [Option.some.injEq, Prod.mk.injEq] at h
    obtain ⟨rfl, rfl⟩ := h
    refine ⟨[], rfl, by simp, by simp, fun behind hbehind => ?_⟩
    unfold scanFraction
    rw [List.nil_append]
    split
    · exact absurd rfl (hbehind '.' rfl).2
    · rfl

/-- An exponent takes its own text, if no digit or further exponent is behind it. -/
theorem exists_exponent {x : Option Exponent} (h : scanExponent cs = some (x, rest)) :
    ∃ w, cs = w ++ rest ∧ ',' ∉ w ∧ (∀ c ∈ w.head?, c = 'e' ∨ c = 'E') ∧
      ∀ behind, (∀ c ∈ behind.head?, c.isDigit = false ∧ c ≠ 'e' ∧ c ≠ 'E') →
        scanExponent (w ++ behind) = some (x, behind) := by
  -- No exponent begins there, and none does in front of what follows.
  have hnone : ∀ behind : List Char, (∀ c ∈ behind.head?, c.isDigit = false ∧ c ≠ 'e' ∧ c ≠ 'E') →
      scanExponent ([] ++ behind) = some (none, behind) := by
    intro behind hbehind
    cases behind with
    | nil => rfl
    | cons c behind =>
      obtain ⟨-, hlower, hupper⟩ := hbehind c rfl
      rw [List.nil_append, scanExponent, if_neg (by simp [hlower, hupper])]
  unfold scanExponent at h
  split at h
  · next c cs =>
    split at h
    · next hmark =>
      obtain ⟨sign, hsign, hcomma, hsplit⟩ := exists_sign cs
      obtain ⟨hcs, hdigits⟩ := spanDigits_cases (splitSign cs).2
      dsimp only at h
      split at h
      · exact absurd h (by simp)
      · next hsome =>
        rw [Option.some.injEq, Prod.mk.injEq] at h
        obtain ⟨rfl, rfl⟩ := h
        refine ⟨c :: (sign ++ (spanDigits (splitSign cs).2).1), ?_, ?_, by simpa using hmark, ?_⟩
        · rw [List.cons_append, List.append_assoc, ← hcs, ← hsign]
        · rw [List.mem_cons, List.mem_append, not_or, not_or]
          refine ⟨?_, hcomma, fun hdigit => ne_comma_of_isDigit (hdigits _ hdigit) rfl⟩
          rcases hmark with rfl | rfl <;> decide
        -- Behind the mark the sign ends where the digits begin, and they end where they did.
        · intro behind hbehind
          have hspan := spanDigits_append hdigits fun c hc => (hbehind c hc).1
          rw [List.cons_append, scanExponent, if_pos hmark]
          dsimp only
          rw [List.append_assoc, hsplit _ (isDigit_of_mem_head? hdigits hsome)]
          dsimp only
          rw [hspan]
          exact if_neg hsome
    · rw [Option.some.injEq, Prod.mk.injEq] at h
      obtain ⟨rfl, rfl⟩ := h
      exact ⟨[], rfl, by simp, by simp, hnone⟩
  · rw [Option.some.injEq, Prod.mk.injEq] at h
    obtain ⟨rfl, rfl⟩ := h
    exact ⟨[], rfl, by simp, by simp, hnone⟩

/-- **A number takes its own text.** -/
theorem exists_text {n : Number} (h : scan cs = some (n, rest)) :
    ∃ w, cs = w ++ rest ∧ ',' ∉ w ∧
      ∀ behind, Firm behind → scan (w ++ behind) = some (n, behind) := by
  unfold scan at h
  dsimp only at h
  obtain ⟨sign, hsign, hsigncomma, hsplit⟩ := exists_minus cs
  obtain ⟨hwhole, hdigits⟩ := spanDigits_cases (splitMinus cs).2
  split at h
  · exact absurd h (by simp)
  · next hwell =>
    obtain ⟨⟨fraction, rest'⟩, hfraction, h⟩ := Option.bind_eq_some_iff.1 h
    obtain ⟨⟨exponent, rest''⟩, hexponent, h⟩ := Option.bind_eq_some_iff.1 h
    obtain ⟨n', hn, h⟩ := Option.bind_eq_some_iff.1 h
    obtain ⟨rfl, rfl⟩ := Prod.mk.inj (Option.some.inj h)
    obtain ⟨f, hf, hfcomma, hfhead, hftakes⟩ := exists_fraction hfraction
    obtain ⟨e, he, hecomma, hehead, hetakes⟩ := exists_exponent hexponent
    refine ⟨sign ++ ((spanDigits (splitMinus cs).2).1 ++ (f ++ e)), ?_, ?_, ?_⟩
    · rw [List.append_assoc, List.append_assoc, List.append_assoc, ← he, ← hf, ← hwhole, ← hsign]
    · rw [List.mem_append, List.mem_append, List.mem_append]
      rintro (hcomma | hcomma | hcomma | hcomma)
      · exact hsigncomma hcomma
      · exact ne_comma_of_isDigit (hdigits _ hcomma) rfl
      · exact hfcomma hcomma
      · exact hecomma hcomma
    · intro behind hbehind
      -- What is behind each part begins with the mark of the next part, or is `behind`.
      have hbehindexponent : ∀ c ∈ (e ++ behind).head?, c.isDigit = false ∧ c ≠ '.' := by
        intro c hc
        cases e with
        | nil => exact ⟨(hbehind c hc).1, (hbehind c hc).2.1⟩
        | cons d e =>
          rw [← Option.some.inj hc]
          rcases hehead d rfl with rfl | rfl <;> decide
      have hbehindwhole : ∀ c ∈ (f ++ (e ++ behind)).head?, c.isDigit = false := by
        intro c hc
        cases f with
        | nil => exact (hbehindexponent c hc).1
        | cons d f =>
          rw [← Option.some.inj hc, hfhead d rfl]
          decide
      have hne : (spanDigits (splitMinus cs).2).1 ≠ [] := fun hnil => hwell (.inl hnil)
      unfold scan
      dsimp only
      rw [List.append_assoc, List.append_assoc, List.append_assoc,
        hsplit _ (isDigit_of_mem_head? hdigits hne), spanDigits_append hdigits hbehindwhole]
      dsimp only
      rw [if_neg hwell, hftakes _ hbehindexponent]
      show (scanExponent (e ++ behind)).bind _ = _
      rw [hetakes behind fun c hc => ⟨(hbehind c hc).1, (hbehind c hc).2.2⟩]
      show (ofDigits _ _ _ _).bind _ = _
      rw [hn]
      rfl

end Number

namespace Token

variable {cs rest behind : List Char}

/-! ## Strings and words -/

theorem hexValue?_comma : hexValue? ',' = none := by decide

/-- None of the digits of an escape is a comma. -/
theorem comma_notMem_of_hex4? {a b c d : Char} {n : Nat} (h : hex4? a b c d = some n) :
    ',' ∉ [a, b, c, d] := by
  obtain ⟨a', ha, h⟩ := Option.bind_eq_some_iff.1 h
  obtain ⟨b', hb, h⟩ := Option.bind_eq_some_iff.1 h
  obtain ⟨c', hc, h⟩ := Option.bind_eq_some_iff.1 h
  obtain ⟨d', hd, -⟩ := Option.bind_eq_some_iff.1 h
  have hne : ∀ {x : Char} {v : Nat}, hexValue? x = some v → ',' ≠ x := by
    rintro x v hx rfl
    exact absurd hx (by simp [hexValue?_comma])
  simp [hne ha, hne hb, hne hc, hne hd]

/-- That some characters are one character of a string as it is written. -/
def Writes (piece : List Char) (x : Char) : Prop :=
  (',' ∈ piece → x = ',') ∧
    ∀ cs, scanString (piece ++ cs) = (scanString cs).map fun r => (x :: r.1, r.2)

/-- Two escaped halves write the character that they make together. -/
theorem writes_pair {a b c d a' b' c' d' : Char} {n low : Nat} (hn : hex4? a b c d = some n)
    (hhigh : 0xd800 ≤ n ∧ n < 0xdc00) (hlow : hex4? a' b' c' d' = some low)
    (hpair : 0xdc00 ≤ low ∧ low < 0xe000) :
    Writes ['\\', 'u', a, b, c, d, '\\', 'u', a', b', c', d'] (joinHalves n low) := by
  refine ⟨fun hcomma => ?_, fun cs => ?_⟩
  · have hfirst := comma_notMem_of_hex4? hn
    have hsecond := comma_notMem_of_hex4? hlow
    have hmem : ',' ∈ [a, b, c, d] ∨ ',' ∈ [a', b', c', d'] := by simpa [or_assoc] using hcomma
    exact (hmem.elim hfirst hsecond).elim
  · show scanString ('\\' :: 'u' :: a :: b :: c :: d ::
      '\\' :: 'u' :: a' :: b' :: c' :: d' :: cs) = _
    rw [scanString, hn]
    dsimp only
    rw [if_neg (by omega), if_pos hhigh]
    simp only [hlow, if_pos hpair]

/-- An escaped number that is no half writes its character. -/
theorem writes_escape {a b c d : Char} {n : Nat} (hn : hex4? a b c d = some n)
    (hlow : ¬(0xdc00 ≤ n ∧ n < 0xe000)) (hhigh : ¬(0xd800 ≤ n ∧ n < 0xdc00)) :
    Writes ['\\', 'u', a, b, c, d] (Char.ofNat n) := by
  refine ⟨fun hcomma => ?_, fun cs => ?_⟩
  · have hmem : ',' ∈ [a, b, c, d] := by simpa using hcomma
    exact (comma_notMem_of_hex4? hn hmem).elim
  · show scanString ('\\' :: 'u' :: a :: b :: c :: d :: cs) = _
    rw [scanString, hn]
    dsimp only
    rw [if_neg hlow, if_neg hhigh]

/-- A letter behind a backslash writes what it stands for. -/
theorem writes_letter {c e : Char} (he : escape? c = some e) : Writes ['\\', c] e := by
  have hu : c ≠ 'u' := by
    rintro rfl
    exact absurd he (by simp [escape?])
  refine ⟨fun hcomma => ?_, fun cs => ?_⟩
  · have hc : c = ',' := by simpa [eq_comm] using hcomma
    rw [hc] at he
    exact absurd he (by simp [escape?])
  · show scanString ('\\' :: c :: cs) = _
    rw [scanString, he]
    exact fun _ _ _ _ _ hc => absurd hc hu

/-- Any other character but a quote writes itself. -/
theorem writes_plain {c : Char} (hquote : c ≠ '"') (hplain : ¬(c = '\\' ∨ c.val < 0x20)) :
    Writes [c] c := by
  refine ⟨fun hcomma => (List.mem_singleton.1 hcomma).symm, fun cs => ?_⟩
  show scanString (c :: cs) = _
  rw [scanString, if_neg hplain]
  · exact hquote
  · exact fun _ _ _ _ _ hc => absurd (.inl hc) hplain
  · exact fun _ _ hc => absurd (.inl hc) hplain

/-- The text of a string whose first character is written so. -/
theorem Writes.exists_stringText {piece text : List Char} {x : Char} (hpiece : Writes piece x)
    (ih : ∀ {rest text}, scanString cs = some (text, rest) →
      ∃ w, cs = w ++ rest ∧ (',' ∈ w → ',' ∈ text) ∧
        ∀ behind, scanString (w ++ behind) = some (text, behind))
    (h : (scanString cs).map (fun r => (x :: r.1, r.2)) = some (text, rest)) :
    ∃ w, piece ++ cs = w ++ rest ∧ (',' ∈ w → ',' ∈ text) ∧
      ∀ behind, scanString (w ++ behind) = some (text, behind) := by
  obtain ⟨⟨text', rest'⟩, hscan, hr⟩ := Option.map_eq_some_iff.1 h
  obtain ⟨rfl, rfl⟩ := Prod.mk.inj hr
  obtain ⟨w, hcs, hcomma, htakes⟩ := ih hscan
  refine ⟨piece ++ w, ?_, fun hmem => ?_, fun behind => ?_⟩
  · rw [hcs, List.append_assoc]
  · rcases List.mem_append.1 hmem with hfirst | hlater
    · exact hpiece.1 hfirst ▸ List.mem_cons_self
    · exact List.mem_cons_of_mem _ (hcomma hlater)
  · rw [List.append_assoc, hpiece.2, htakes]
    rfl

/-- **A string takes its own text**, whatever is behind it; a comma in the text is one of the
string. There is one case for each way in which a character can be written. -/
theorem exists_stringText {text : List Char} (h : scanString cs = some (text, rest)) :
    ∃ w, cs = w ++ rest ∧ (',' ∈ w → ',' ∈ text) ∧
      ∀ behind, scanString (w ++ behind) = some (text, behind) := by
  fun_induction scanString cs generalizing text rest with
  | case1 | case3 | case4 | case5 | case7 | case8 | case10 | case12 => cases h
  | case2 =>
    cases h
    exact ⟨['"'], rfl, by decide, fun behind => by rw [List.singleton_append, scanString]⟩
  | case6 a b c d n hn _ hhigh a' b' c' d' _ low hlow hpair ih =>
    exact (writes_pair hn hhigh hlow hpair).exists_stringText ih h
  | case9 a b c d _ n hn hlow hhigh ih => exact (writes_escape hn hlow hhigh).exists_stringText ih h
  | case11 c _ _ e he ih => exact (writes_letter he).exists_stringText ih h
  | case13 c _ hquote _ _ hplain ih => exact (writes_plain hquote hplain).exists_stringText ih h

/-- What a text begins with is its front. -/
theorem eq_append_of_after? {word : List Char} (h : after? word cs = some rest) :
    cs = word ++ rest := by
  fun_induction after? word cs with
  | case1 cs =>
    cases h
    rfl
  | case2 word c cs ih => exact congrArg (c :: ·) (ih h)
  | case3 | case4 => cases h

/-! ## Tokens -/

/-- Whether a token is a punctuation mark. -/
def isMark : Token → Bool
  | null | bool _ | number _ | str _ => false
  | _ => true

/-- That a text is that of a token. -/
def Spells (t : Token) (w : List Char) : Prop := scanOne w = some (t, [])

instance (t : Token) (w : List Char) : Decidable (Spells t w) :=
  inferInstanceAs (Decidable (_ = _))

/-- **A token takes its own text**, if what is behind it is firm or the token is a mark; a comma in
the text is the token, or is one of a string. The first character decides: a mark, a quote, a letter
of a word, or a number. -/
theorem exists_text {t : Token} (h : scanOne cs = some (t, rest)) :
    ∃ w, cs = w ++ rest ∧ w ≠ [] ∧
      (',' ∈ w → t = comma ∧ w = [','] ∨ ∃ s, t = str s ∧ ',' ∈ s.toList) ∧
      ∀ behind, t.isMark = true ∨ Firm behind → scanOne (w ++ behind) = some (t, behind) := by
  revert h
  fun_cases scanOne cs with
  | case1 => exact fun h => absurd h (by simp)
  | case2 | case3 | case4 | case5 | case6 | case7 =>
    intro h
    cases h
    exact ⟨[_], rfl, by simp, by simp, fun behind _ => rfl⟩
  | case8 c cs =>
    intro h
    obtain ⟨⟨text, rest'⟩, hscan, hr⟩ := Option.map_eq_some_iff.1 h
    obtain ⟨rfl, rfl⟩ := Prod.mk.inj hr
    obtain ⟨w, hcs, hcomma, htakes⟩ := exists_stringText hscan
    refine ⟨'"' :: w, congrArg ('"' :: ·) hcs, by simp, fun hmem => .inr ⟨_, rfl, ?_⟩, ?_⟩
    · rw [String.toList_ofList]
      exact hcomma ((List.mem_cons.1 hmem).resolve_left (by decide))
    · intro behind _
      show (scanString (w ++ behind)).map _ = _
      rw [htakes]
      rfl
  | case9 | case10 | case11 =>
    intro h
    obtain ⟨rest', hscan, hr⟩ := Option.map_eq_some_iff.1 h
    obtain ⟨rfl, rfl⟩ := Prod.mk.inj hr
    exact ⟨_ :: _, congrArg (_ :: ·) (eq_append_of_after? hscan), by simp, by simp,
      fun behind _ => rfl⟩
  | case12 c cs hbrace hbrace' hbracket hbracket' hcolon hcomma hquote hn ht hf =>
    intro h
    obtain ⟨⟨n, rest'⟩, hscan, hr⟩ := Option.map_eq_some_iff.1 h
    obtain ⟨rfl, rfl⟩ := Prod.mk.inj hr
    obtain ⟨w, hcs, hnone, htakes⟩ := Number.exists_text hscan
    cases w with
    | nil =>
      -- A number without a text would be there again behind no text at all.
      have hempty : Number.scan [] = some (n, []) := htakes [] (by simp [Firm])
      exact absurd (hempty.symm.trans (show Number.scan [] = none from rfl)) (by simp)
    | cons d w =>
      rw [List.cons_append, List.cons.injEq] at hcs
      obtain ⟨rfl, hcs⟩ := hcs
      refine ⟨c :: w, congrArg (c :: ·) hcs, by simp, fun hmem => absurd hmem hnone, ?_⟩
      intro behind hbehind
      rw [List.cons_append, scanOne, if_neg hbrace, if_neg hbrace', if_neg hbracket,
        if_neg hbracket', if_neg hcolon, if_neg hcomma, if_neg hquote, if_neg hn, if_neg ht,
        if_neg hf, ← List.cons_append, htakes behind (hbehind.resolve_left (by simp [isMark]))]
      rfl

namespace Spells

variable {t : Token} {w : List Char}

/-- A token is read from its own text in front of anything, if it is a mark or what follows does not
go on with it. -/
theorem scanOne_append (h : Spells t w) (hbehind : t.isMark = true ∨ Firm behind) :
    scanOne (w ++ behind) = some (t, behind) := by
  obtain ⟨w', hw, -, -, htakes⟩ := exists_text h
  rw [List.append_nil] at hw
  rw [hw]
  exact htakes behind hbehind

theorem ne_nil (h : Spells t w) : w ≠ [] := by
  rintro rfl
  exact absurd h (by simp [Spells, scanOne])

end Spells

/-- The text of a punctuation mark. -/
def mark : Token → List Char
  | leftBrace => ['\x7b']
  | rightBrace => ['\x7d']
  | leftBracket => ['[']
  | rightBracket => [']']
  | colon => [':']
  | comma => [',']
  | null | bool _ | number _ | str _ => []

theorem spells_mark {t : Token} (h : t.isMark = true) : Spells t t.mark := by
  cases t with
  | leftBrace | rightBrace | leftBracket | rightBracket | colon | comma => rfl
  | null | bool _ | number _ | str _ => exact absurd h (by simp [isMark])

/-- A mark is written in one way. -/
theorem Spells.eq_mark {t : Token} {w : List Char} (h : Spells t w) (hmark : t.isMark = true) :
    w = t.mark := by
  revert h
  unfold Spells
  fun_cases scanOne w with
  | case1 => exact fun h => absurd h (by simp)
  | case2 | case3 | case4 | case5 | case6 | case7 =>
    intro h
    cases h
    rfl
  | case8 | case9 | case10 | case11 | case12 =>
    intro h
    obtain ⟨_, -, hr⟩ := Option.map_eq_some_iff.1 h
    obtain ⟨rfl, -⟩ := Prod.mk.inj hr
    exact absurd hmark (by simp [isMark])

/-- No mark could be one more character of a number. -/
theorem firm_mark_append {t : Token} (h : t.isMark = true) : Firm (t.mark ++ behind) := by
  cases t with
  | leftBrace | rightBrace | leftBracket | rightBracket | colon | comma =>
    intro c hc
    rw [← Option.some.inj hc]
    decide
  | null | bool _ | number _ | str _ => exact absurd h (by simp [isMark])

end Token

end Json

end ControllerLink
