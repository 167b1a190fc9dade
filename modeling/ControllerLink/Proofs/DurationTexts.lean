/-
# The texts of durations

A duration is written as a number and the name of a unit, with blanks around
them.  Exactly these texts are read, if the number is neither zero nor too
large; what is read is so many of the unit.  All others are a wrong use of the
program.

The grammar is stated without a parser: `Says` joins a numeral and one of the
names of a unit.  One direction runs the parser on a text of the grammar; there
the only question is where the number ends, and a name never begins with a
digit.  The other direction takes a text apart that was read, and finds the
numeral from the digits of its value, with zeros before them and perhaps a plus
sign.
-/
import ControllerLink.Console.Program
import Mathlib.Algebra.GroupWithZero.Nat
import Mathlib.Data.List.Basic
import Mathlib.Data.List.Induction

set_option autoImplicit false

namespace ControllerLink

namespace Duration

/-! ## The grammar -/

/-- The ways to write a number: its decimal digits, with any number of zeros before them and a plus
sign before these or not. -/
def Numeral (n : Nat) (cs : List Char) : Prop :=
  ∃ sign zeros, (sign = [] ∨ sign = ['+']) ∧
    cs = sign ++ (List.replicate zeros '0' ++ Nat.toDigits 10 n)

/-- The names of a unit; seconds may as well go without. -/
def Scale.names : Scale → List (List Char)
  | milliseconds => [['m', 's']]
  | seconds => [[], ['s']]

/-- The ways to write so many of a unit: the number and a name of the unit, between blanks. -/
def Says (n : Nat) (scale : Scale) (cs : List Char) : Prop :=
  ∃ lead number name trail, cs = lead ++ ((number ++ name) ++ trail) ∧
    (∀ c ∈ lead, Text.isBlank c = true) ∧ (∀ c ∈ trail, Text.isBlank c = true) ∧
      Numeral n number ∧ name ∈ scale.names

/-! ## Numbers -/

/-- Zeros in front do not change the value of digits. -/
theorem digitsValue_zeros_append (zeros n : Nat) :
    digitsValue (List.replicate zeros '0' ++ Nat.toDigits 10 n) = n := by
  show Nat.ofDigitChars 10 _ 0 = n
  rw [Nat.ofDigitChars_append, Nat.ofDigitChars_replicate_zero, Nat.mul_zero,
    Nat.ofDigitChars_ten_toDigits]

/-- One more digit makes the number ten times as large, and adds itself. -/
theorem digitsValue_append_singleton (cs : List Char) (c : Char) :
    digitsValue (cs ++ [c]) = 10 * digitsValue cs + (c.toNat - '0'.toNat) :=
  Nat.ofDigitChars_append 0

/-- A digit is the decimal text of its value. -/
theorem toDigits_digit {c : Char} (hc : c.isDigit = true) :
    c.toNat - '0'.toNat < 10 ∧ Nat.toDigits 10 (c.toNat - '0'.toNat) = [c] := by
  have hrange := Char.isDigit_iff_toNat.1 hc
  have hzero : '0'.toNat = 48 := rfl
  have hnine : '9'.toNat = 57 := rfl
  have hsmall : c.toNat - '0'.toNat < 10 := by omega
  refine ⟨hsmall, ?_⟩
  rw [Nat.toDigits_of_lt_base hsmall]
  congr 1
  apply Char.toNat_inj.1
  rw [Nat.toNat_digitChar_of_lt_ten hsmall]
  omega

/-- Digits are zeros and the decimal text of the number that they make. The induction is from the
last digit on, since that is how the decimal text of a number grows. -/
theorem exists_zeros_append {cs : List Char} (hne : cs ≠ [])
    (hdigits : ∀ c ∈ cs, c.isDigit = true) :
    ∃ zeros, cs = List.replicate zeros '0' ++ Nat.toDigits 10 (digitsValue cs) := by
  induction cs using List.reverseRecOn with
  | nil => exact absurd rfl hne
  | append_singleton front c ih =>
    obtain ⟨hsmall, hdigit⟩ := toDigits_digit (hdigits c (by simp))
    rw [digitsValue_append_singleton]
    rcases List.eq_nil_or_concat front with rfl | ⟨_, _, hfront⟩
    · exact ⟨0, by simpa [digitsValue] using hdigit.symm⟩
    · obtain ⟨zeros, hzeros⟩ := ih (by simp [hfront]) fun d hd => hdigits d (by simp [hd])
      rcases Nat.eq_zero_or_pos (digitsValue front) with hnone | hpos
      · -- All digits so far are zeros, so that the last one begins the decimal text.
        refine ⟨zeros + 1, ?_⟩
        rw [hnone] at hzeros
        rw [hnone, Nat.mul_zero, Nat.zero_add, hdigit, hzeros, List.replicate_succ']
        rfl
      · refine ⟨zeros, ?_⟩
        rw [← Nat.toDigits_append_toDigits (by decide) hpos hsmall, hdigit, ← List.append_assoc,
          ← hzeros]

theorem isDigit_of_mem_digits {zeros n : Nat} {c : Char}
    (hc : c ∈ List.replicate zeros '0' ++ Nat.toDigits 10 n) : c.isDigit = true := by
  rcases List.mem_append.1 hc with hzero | hdigit
  · rw [List.eq_of_mem_replicate hzero]
    decide
  · exact Nat.isDigit_of_mem_toDigits (by decide) (by decide) hdigit

theorem digits_ne_nil (zeros n : Nat) :
    List.replicate zeros '0' ++ Nat.toDigits 10 n ≠ [] :=
  List.append_ne_nil_of_right_ne_nil _ Nat.toDigits_ne_nil

/-- A plus in front of a number is passed over. -/
theorem parseNumber?_plus (limit : Nat) (digits : List Char) :
    parseNumber? limit ('+' :: digits) =
      if digits ≠ [] ∧ digits.all Char.isDigit = true then
        if digitsValue digits ≤ limit then some (digitsValue digits) else none
      else none := rfl

/-- Without a plus all characters have to be digits. -/
theorem parseNumber?_of_head_ne {cs : List Char} (hhead : cs.head? ≠ some '+') (limit : Nat) :
    parseNumber? limit cs =
      if cs ≠ [] ∧ cs.all Char.isDigit = true then
        if digitsValue cs ≤ limit then some (digitsValue cs) else none
      else none := by
  rcases cs with _ | ⟨c, rest⟩
  · rfl
  · have hc : c ≠ '+' := fun hplus => hhead (congrArg some hplus)
    simp [parseNumber?, hc]

/-- A numeral is read as its number, unless that is too large. Without a sign the first character is
a digit, and so no plus. -/
theorem Numeral.parseNumber?_eq {n : Nat} {cs : List Char} (h : Numeral n cs) (limit : Nat) :
    parseNumber? limit cs = if n ≤ limit then some n else none := by
  obtain ⟨sign, zeros, hsign, rfl⟩ := h
  have hdigits : List.replicate zeros '0' ++ Nat.toDigits 10 n ≠ [] ∧
      (List.replicate zeros '0' ++ Nat.toDigits 10 n).all Char.isDigit = true :=
    ⟨digits_ne_nil zeros n, List.all_eq_true.2 fun _ => isDigit_of_mem_digits⟩
  rcases hsign with rfl | rfl
  · have hhead : (List.replicate zeros '0' ++ Nat.toDigits 10 n).head? ≠ some '+' := fun hplus =>
      absurd (isDigit_of_mem_digits (List.mem_of_head? hplus)) (by decide)
    rw [List.nil_append, parseNumber?_of_head_ne hhead, if_pos hdigits, digitsValue_zeros_append]
  · rw [List.singleton_append, parseNumber?_plus, if_pos hdigits, digitsValue_zeros_append]

/-- Nothing but a numeral is read as a number. It is read off digits alone, and a plus in front
makes the other case. -/
theorem numeral_of_parseNumber? {limit n : Nat} {cs : List Char}
    (h : parseNumber? limit cs = some n) : Numeral n cs ∧ n ≤ limit := by
  have hbare : ∀ digits, (if digits ≠ [] ∧ digits.all Char.isDigit = true then
      if digitsValue digits ≤ limit then some (digitsValue digits) else none
      else none) = some n →
      (∃ zeros, digits = List.replicate zeros '0' ++ Nat.toDigits 10 n) ∧ n ≤ limit := by
    intro digits hread
    split at hread
    · next hdigits =>
      obtain ⟨hlimit, hn⟩ := Option.ite_none_right_eq_some.1 hread
      obtain rfl := Option.some.inj hn
      exact ⟨exists_zeros_append hdigits.1 (List.all_eq_true.1 hdigits.2), hlimit⟩
    · exact absurd hread (by simp)
  by_cases hhead : cs.head? = some '+'
  · obtain ⟨digits, rfl⟩ : ∃ digits, cs = '+' :: digits := by
      cases cs with
      | nil => exact absurd hhead (by simp)
      | cons c digits => exact ⟨digits, by rw [Option.some.inj hhead]⟩
    obtain ⟨⟨zeros, rfl⟩, hlimit⟩ := hbare digits h
    exact ⟨⟨['+'], zeros, .inr rfl, rfl⟩, hlimit⟩
  · rw [parseNumber?_of_head_ne hhead] at h
    obtain ⟨⟨zeros, rfl⟩, hlimit⟩ := hbare cs h
    exact ⟨⟨[], zeros, .inl rfl, rfl⟩, hlimit⟩

/-! ## Units -/

/-- What is split off from a text is a name of the unit. A text ends in `ms`, in `s`, or in no name;
the name is read from the end. -/
theorem exists_name (cs : List Char) :
    ∃ name ∈ (splitScale cs).2.names, cs = (splitScale cs).1 ++ name := by
  unfold splitScale
  split
  · next number hreverse =>
    exact ⟨['m', 's'], List.mem_singleton_self _, by simpa using congrArg List.reverse hreverse⟩
  · next number _ hreverse =>
    exact ⟨['s'], by simp [Scale.names], by simpa using congrArg List.reverse hreverse⟩
  · exact ⟨[], by simp [Scale.names], by simp⟩

/-- A name of a unit is split off from the number before it. The number ends in a digit, which is no
letter of a name. -/
theorem splitScale_append {number name : List Char} {scale : Scale} {c : Char}
    (hlast : number.getLast? = some c) (hdigit : c.isDigit = true) (hname : name ∈ scale.names) :
    splitScale (number ++ name) = (number, scale) := by
  obtain ⟨front, rfl⟩ := List.getLast?_eq_some_iff.1 hlast
  have hm : c ≠ 'm' := by
    rintro rfl
    exact absurd hdigit (by decide)
  have hs : c ≠ 's' := by
    rintro rfl
    exact absurd hdigit (by decide)
  cases scale with
  | milliseconds =>
    rw [List.mem_singleton.1 hname]
    simp [splitScale]
  | seconds =>
    rcases List.mem_pair.1 hname with rfl | rfl
    · simp [splitScale, hs]
    · simp [splitScale, hm]

/-- A numeral ends in a digit. -/
theorem Numeral.exists_last {n : Nat} {cs : List Char} (h : Numeral n cs) :
    ∃ c, cs.getLast? = some c ∧ c.isDigit = true := by
  obtain ⟨sign, zeros, -, rfl⟩ := h
  rw [List.getLast?_append_of_ne_nil _ (digits_ne_nil zeros n)]
  have hsome := List.getLast?_eq_some_getLast (digits_ne_nil zeros n)
  exact ⟨_, hsome, isDigit_of_mem_digits (List.mem_of_getLast? hsome)⟩

/-! ## Blanks -/

theorem isBlank_of_isDigit {c : Char} (hc : c.isDigit = true) : Text.isBlank c = false := by
  have hrange := Char.isDigit_iff_toNat.1 hc
  have hzero : '0'.toNat = 48 := rfl
  have hnine : '9'.toNat = 57 := rfl
  simp [Text.isBlank]
  omega

/-- Neither a numeral nor the name of a unit has blanks. The characters are those of the sign, of
the digits and of the name of the scale. -/
theorem Numeral.isBlank_of_mem {n : Nat} {number name : List Char} {scale : Scale}
    (h : Numeral n number) (hname : name ∈ scale.names) :
    ∀ c ∈ number ++ name, Text.isBlank c = false := by
  obtain ⟨sign, zeros, hsign, rfl⟩ := h
  have hplus : ∀ c ∈ sign, Text.isBlank c = false := by
    rcases hsign with rfl | rfl
    · exact List.forall_mem_nil _
    · exact List.forall_mem_singleton.2 (by decide)
  have hnames : ∀ c ∈ name, Text.isBlank c = false := by
    cases scale with
    | milliseconds =>
      rw [List.mem_singleton.1 hname]
      exact List.forall_mem_cons.2 ⟨by decide, List.forall_mem_singleton.2 (by decide)⟩
    | seconds =>
      rcases List.mem_pair.1 hname with rfl | rfl
      · exact List.forall_mem_nil _
      · exact List.forall_mem_singleton.2 (by decide)
  intro c hc
  rcases List.mem_append.1 hc with hc | hc
  · rcases List.mem_append.1 hc with hc | hc
    · exact hplus c hc
    · exact isBlank_of_isDigit (isDigit_of_mem_digits hc)
  · exact hnames c hc

/-! ## Reading -/

/-- Trimming takes off just the blanks around the number and the name of its scale. -/
theorem trimChars_says_eq {lead number name trail : List Char} {n : Nat} {scale : Scale}
    (hlead : ∀ c ∈ lead, Text.isBlank c = true) (htrail : ∀ c ∈ trail, Text.isBlank c = true)
    (hnumber : Numeral n number) (hname : name ∈ scale.names) :
    Text.trimChars (lead ++ ((number ++ name) ++ trail)) = number ++ name := by
  have hnone := hnumber.isBlank_of_mem hname
  obtain ⟨c, hlast, -⟩ := hnumber.exists_last
  refine Text.trimChars_append hlead htrail ?_ (fun c hc => hnone c (List.mem_of_head? hc))
    fun c hc => hnone c (List.mem_of_getLast? hc)
  exact List.append_ne_nil_of_left_ne_nil (List.ne_nil_of_mem (List.mem_of_getLast? hlast)) _

/-- **What is said is read**, unless it is nothing or too much. -/
theorem Says.parse_eq {n : Nat} {scale : Scale} {s : String} (h : Says n scale s.toList) :
    parse s =
      if n ≤ 2 ^ 64 - 1 then if n = 0 then .error .zero else .ok (scale.times n)
      else .error (.invalid (Text.trim s)) := by
  obtain ⟨lead, number, name, trail, hs, hlead, htrail, hnumber, hname⟩ := h
  obtain ⟨c, hlast, hdigit⟩ := hnumber.exists_last
  -- Behind the blanks there is the number and the name, and that is not nothing.
  have htrim : Text.trimChars s.toList = number ++ name := by
    rw [hs, trimChars_says_eq hlead htrail hnumber hname]
  have hne : number ++ name ≠ [] :=
    List.append_ne_nil_of_left_ne_nil (List.ne_nil_of_mem (List.mem_of_getLast? hlast)) _
  unfold parse
  dsimp only
  rw [Text.trim, htrim, if_neg hne, splitScale_append hlast hdigit hname,
    hnumber.parseNumber?_eq]
  rw [show Nat.pow 2 64 - 1 = 2 ^ 64 - 1 from rfl]
  -- The number is too large for 64 bits, or zero, or right.
  by_cases hlimit : n ≤ 2 ^ 64 - 1
  · rw [if_pos hlimit, if_pos hlimit]
    cases n with
    | zero => rfl
    | succ n => rfl
  · rw [if_neg hlimit, if_neg hlimit]

/-- **Nothing else is read**: a text is blank, or says zero, or says so many of a unit, or is
refused as it is without its blanks. -/
theorem parse_cases (s : String) :
    (parse s = .error .empty ∧ ∀ c ∈ s.toList, Text.isBlank c = true) ∨
      (parse s = .error .zero ∧ ∃ scale, Says 0 scale s.toList) ∨
      (∃ n scale, parse s = .ok (scale.times n) ∧ 1 ≤ n ∧ n ≤ 2 ^ 64 - 1 ∧
        Says n scale s.toList) ∨
      parse s = .error (.invalid (Text.trim s)) := by
  by_cases hnone : Text.trimChars s.toList = []
  · exact .inl ⟨if_pos hnone, Text.forall_isBlank_of_trimChars_eq_nil hnone⟩
  -- What is not blank has a number in front of its scale, or is invalid.
  · cases hread : parseNumber? (Nat.pow 2 64 - 1) (splitScale (Text.trimChars s.toList)).1 with
    | none =>
      refine .inr (.inr (.inr ?_))
      unfold parse
      dsimp only
      rw [if_neg hnone, hread, Text.trim]
    | some n =>
      obtain ⟨hnumber, hlimit⟩ := numeral_of_parseNumber? hread
      rw [show Nat.pow 2 64 - 1 = 2 ^ 64 - 1 from rfl] at hlimit
      -- What was read is a numeral, and what was split off behind it a name.
      have hsays : Says n (splitScale (Text.trimChars s.toList)).2 s.toList := by
        obtain ⟨lead, trail, hs, hlead, htrail⟩ := Text.exists_trimChars s.toList
        obtain ⟨name, hname, hsplit⟩ := exists_name (Text.trimChars s.toList)
        exact ⟨lead, _, name, trail, by rwa [← hsplit], hlead, htrail, hnumber, hname⟩
      have hparse := Says.parse_eq hsays
      rw [if_pos hlimit] at hparse
      rcases Nat.eq_zero_or_pos n with rfl | hpos
      · exact .inr (.inl ⟨hparse, _, hsays⟩)
      · rw [if_neg (Nat.pos_iff_ne_zero.1 hpos)] at hparse
        exact .inr (.inr (.inl ⟨n, _, hparse, hpos, hlimit, hsays⟩))

/-- A duration is read exactly from the texts that say so many of a unit. -/
theorem parse_eq_ok_iff (s : String) (d : Duration) :
    parse s = .ok d ↔
      ∃ n scale, 1 ≤ n ∧ n ≤ 2 ^ 64 - 1 ∧ Says n scale s.toList ∧ d = scale.times n := by
  constructor
  · intro h
    rcases parse_cases s with ⟨hparse, -⟩ | ⟨hparse, -⟩ | ⟨n, scale, hparse, hn⟩ | hparse
    · exact absurd (h.symm.trans hparse) (by simp)
    · exact absurd (h.symm.trans hparse) (by simp)
    · exact ⟨n, scale, hn.1, hn.2.1, hn.2.2, Except.ok.inj (h.symm.trans hparse)⟩
    · exact absurd (h.symm.trans hparse) (by simp)
  · rintro ⟨n, scale, hpos, hlimit, hsays, rfl⟩
    rw [Says.parse_eq hsays, if_pos hlimit, if_neg (Nat.one_le_iff_ne_zero.1 hpos)]

/-! ## Decimal texts -/

/-- The decimal text of a number says so many of the unit named behind it. -/
theorem says_toString (n : Nat) {scale : Scale} {name : String} (h : name.toList ∈ scale.names) :
    Says n scale (toString n ++ name).toList := by
  refine ⟨[], Nat.toDigits 10 n, name.toList, [], ?_, by simp, by simp,
    ⟨[], 0, .inl rfl, rfl⟩, h⟩
  rw [String.toList_append, Nat.toString_eq_ofList_toDigits, String.toList_ofList]
  simp

theorem ofMillis_thousand_mul (n : Nat) : ofMillis (1000 * n) = ofSeconds n := by
  rw [ofMillis, Nat.mul_div_cancel_left n (by decide), Nat.mul_mod_right]
  rfl

end Duration

/-- A program reads a duration exactly if it can be parsed; only the errors become exits. -/
theorem Program.duration_eq_ok_iff (s : String) (d : Duration) :
    duration s = .ok d ↔ Duration.parse s = .ok d := by
  unfold duration
  cases Duration.parse s <;> simp [Except.mapError]

open Duration in
/-- **The grammar of durations.**  A text is read exactly if it is, between blanks, a number from
one to the largest of 64 bits with a unit or none, with zeros and a plus sign allowed before its
digits; what is read is so many milliseconds or seconds.  All other texts end the program with the
exit code of wrong use.  So the decimal text of a number is read back, in each unit, and a number of
seconds is the same with its unit, without it, and as a thousand times as many milliseconds. -/
theorem Program.duration_grammar :
    (∀ s d, duration s = .ok d ↔
      ∃ n scale, 1 ≤ n ∧ n ≤ 2 ^ 64 - 1 ∧ Says n scale s.toList ∧ d = scale.times n) ∧
    (∀ s, (¬ ∃ n scale, 1 ≤ n ∧ n ≤ 2 ^ 64 - 1 ∧ Says n scale s.toList) →
      ∃ e : ParseError, duration s = .error ⟨64, e.message⟩) ∧
    (∀ n, 1 ≤ n → n ≤ 2 ^ 64 - 1 → duration (toString n ++ "ms") = .ok (.ofMillis n)) ∧
    ∀ n, 1000 * n ≤ 2 ^ 64 - 1 →
      duration (toString n ++ "s") = duration (toString n) ∧
        duration (toString n) = duration (toString (1000 * n) ++ "ms") := by
  refine ⟨fun s d => ?_, fun s hnone => ?_, fun n hpos hlimit => ?_, fun n hlimit => ?_⟩
  · rw [duration_eq_ok_iff, parse_eq_ok_iff]
  · rcases parse_cases s with ⟨hparse, -⟩ | ⟨hparse, -⟩ | ⟨n, scale, -, hn⟩ | hparse
    · exact ⟨.empty, by rw [duration, hparse]; rfl⟩
    · exact ⟨.zero, by rw [duration, hparse]; rfl⟩
    · exact absurd ⟨n, scale, hn⟩ hnone
    · exact ⟨.invalid (Text.trim s), by rw [duration, hparse]; rfl⟩
  · rw [duration_eq_ok_iff, parse_eq_ok_iff]
    exact ⟨n, .milliseconds, hpos, hlimit, says_toString n (by decide), rfl⟩
  -- The three texts say the same duration; zero is refused in each of them.
  · have hnamed := (says_toString n (show "s".toList ∈ Scale.seconds.names by decide)).parse_eq
    have hbare := (says_toString n (show "".toList ∈ Scale.seconds.names by decide)).parse_eq
    have hmillis := Says.parse_eq
      (says_toString (1000 * n) (show "ms".toList ∈ Scale.milliseconds.names by decide))
    have hsmall : n ≤ 2 ^ 64 - 1 := by omega
    rw [String.append_empty] at hbare
    rw [if_pos hsmall] at hnamed hbare
    rw [if_pos hlimit] at hmillis
    refine ⟨by rw [duration, duration, hnamed, hbare], ?_⟩
    rw [duration, duration, hbare, hmillis]
    rcases Nat.eq_zero_or_pos n with rfl | hpos
    · rfl
    · rw [if_neg (by omega), if_neg (by omega)]
      exact congrArg (fun d => Except.mapError ExitError.ofDuration (.ok d))
        (ofMillis_thousand_mul n).symm

open Duration in
/-- Seventy milliseconds with zeros, a sign and blanks around them, a text that stops behind its
sign, and the longest time in milliseconds. -/
theorem Program.duration_grammar_padded :
    duration "　+0070ms
" = .ok ⟨0, 70000000⟩ ∧
      (∃ e : ParseError, duration "+ms" = .error ⟨64, e.message⟩) ∧
      duration (toString (2 ^ 64 - 1) ++ "ms") = .ok ⟨18446744073709551, 615000000⟩ ∧
      duration (toString 90 ++ "s") = duration (toString 90) := by
  obtain ⟨hread, hrefused, hmillis, hseconds⟩ := duration_grammar
  refine ⟨(hread _ _).2 ⟨70, .milliseconds, by decide, by decide, ?_, rfl⟩, hrefused _ ?_,
    hmillis _ (by decide) (by decide), (hseconds 90 (by decide)).1⟩
  · exact ⟨['\u3000'], "+0070".toList, "ms".toList, ['\n'], by decide,
      List.forall_mem_singleton.2 (by decide), List.forall_mem_singleton.2 (by decide),
      ⟨['+'], 2, .inr rfl, by decide⟩, by decide⟩
  · rintro ⟨n, scale, hpos, hlimit, hsays⟩
    have hok := (hread "+ms" (scale.times n)).2 ⟨n, scale, hpos, hlimit, hsays, rfl⟩
    have hno : (duration "+ms").isOk = false := by decide
    exact absurd (hok ▸ hno) (by simp [Except.isOk, Except.toBool])

end ControllerLink
