/-
# JSON tokens

The text of a JSON document as a list of tokens; blanks between tokens are
spaces, tabs, line feeds and carriage returns.
-/
import ControllerLink.Json.Number

set_option autoImplicit false

namespace ControllerLink

namespace Json

/-- A token of a JSON text. -/
inductive Token where
  | leftBrace
  | rightBrace
  | leftBracket
  | rightBracket
  | colon
  | comma
  | null
  | bool (b : Bool)
  | number (n : Number)
  | str (s : String)
deriving DecidableEq, Repr

namespace Token

/-- Whether a character may stand between tokens. -/
def isGap (c : Char) : Bool :=
  c == ' ' || c == '\t' || c == '\n' || c == '\r'

/-- The value of a hexadecimal digit. -/
def hexValue? (c : Char) : Option Nat :=
  let n := c.toNat
  if '0' ≤ c ∧ c ≤ '9' then some (n - '0'.toNat)
  else if 'a' ≤ c ∧ c ≤ 'f' then some (n - 'a'.toNat + 10)
  else if 'A' ≤ c ∧ c ≤ 'F' then some (n - 'A'.toNat + 10)
  else none

/-- The number that four hexadecimal digits make. -/
def hex4? (a b c d : Char) : Option Nat := do
  return (((← hexValue? a) * 16 + (← hexValue? b)) * 16 + (← hexValue? c)) * 16 + (← hexValue? d)

/-- The character that one letter after a backslash stands for. -/
def escape? (c : Char) : Option Char :=
  if c = '"' ∨ c = '\\' ∨ c = '/' then some c
  else if c = 'b' then some '\x08'
  else if c = 'f' then some '\x0c'
  else if c = 'n' then some '\n'
  else if c = 'r' then some '\r'
  else if c = 't' then some '\t'
  else none

/-- The character of a pair of halves. -/
def joinHalves (high low : Nat) : Char :=
  Char.ofNat (0x10000 + (high - 0xd800) * 0x400 + (low - 0xdc00))

/-- The rest of a string after its opening quote, and the text behind the closing one.  A
character above `U+FFFF` may be written as two halves, but neither half alone. -/
def scanString : List Char → Option (List Char × List Char)
  | [] => none
  | '"' :: rest => some ([], rest)
  | '\\' :: 'u' :: a :: b :: c :: d :: rest =>
    match hex4? a b c d with
    | none => none
    | some n =>
      if 0xdc00 ≤ n ∧ n < 0xe000 then none
      else if 0xd800 ≤ n ∧ n < 0xdc00 then
        match rest with
        | '\\' :: 'u' :: a' :: b' :: c' :: d' :: rest' =>
          match hex4? a' b' c' d' with
          | none => none
          | some low =>
            if 0xdc00 ≤ low ∧ low < 0xe000 then
              (scanString rest').map fun r => (joinHalves n low :: r.1, r.2)
            else none
        | _ => none
      else (scanString rest).map fun r => (Char.ofNat n :: r.1, r.2)
  | '\\' :: c :: rest =>
    match escape? c with
    | none => none
    | some e => (scanString rest).map fun r => (e :: r.1, r.2)
  | c :: rest =>
    if c = '\\' ∨ c.val < 0x20 then none
    else (scanString rest).map fun r => (c :: r.1, r.2)

/-- The text behind a given beginning. -/
def after? : List Char → List Char → Option (List Char)
  | [], cs => some cs
  | w :: ws, c :: cs => if w = c then after? ws cs else none
  | _ :: _, [] => none

/-- The token at the front of a text, and the text behind it. -/
def scanOne : List Char → Option (Token × List Char)
  | [] => none
  | c :: cs =>
    if c = '\x7b' then some (leftBrace, cs)
    else if c = '\x7d' then some (rightBrace, cs)
    else if c = '[' then some (leftBracket, cs)
    else if c = ']' then some (rightBracket, cs)
    else if c = ':' then some (colon, cs)
    else if c = ',' then some (comma, cs)
    else if c = '"' then (scanString cs).map fun r => (str (String.ofList r.1), r.2)
    else if c = 'n' then (after? ['u', 'l', 'l'] cs).map fun r => (null, r)
    else if c = 't' then (after? ['r', 'u', 'e'] cs).map fun r => (bool true, r)
    else if c = 'f' then (after? ['a', 'l', 's', 'e'] cs).map fun r => (bool false, r)
    else (Number.scan (c :: cs)).map fun r => (number r.1, r.2)

/-! ## What a scan leaves -/

theorem length_of_map_scanString {cs : List Char} {c : Char} {text rest : List Char}
    (ih : ∀ {text rest}, scanString cs = some (text, rest) → rest.length < cs.length)
    (h : (scanString cs).map (fun r => (c :: r.1, r.2)) = some (text, rest)) :
    rest.length < cs.length := by
  obtain ⟨⟨_, _⟩, hr, e⟩ := Option.map_eq_some_iff.1 h
  cases e
  exact ih hr

theorem length_scanString_lt {cs rest text : List Char} (h : scanString cs = some (text, rest)) :
    rest.length < cs.length := by
  fun_induction scanString cs generalizing text rest with
  | case1 | case3 | case4 | case5 | case7 | case8 | case10 | case12 => cases h
  | case2 =>
    cases h
    exact Nat.lt_succ_self _
  | case6 | case9 | case11 | case13 =>
    rename_i ih
    have := length_of_map_scanString ih h
    simp only [List.length_cons]
    omega

theorem length_after?_le {word cs rest : List Char} (h : after? word cs = some rest) :
    rest.length ≤ cs.length := by
  fun_induction after? word cs with
  | case1 =>
    cases h
    exact Nat.le_refl _
  | case2 _ _ _ ih => exact Nat.le_succ_of_le (ih h)
  | case3 | case4 => cases h

/-- A token takes at least one character. -/
theorem length_scanOne_lt {cs rest : List Char} {t : Token} (h : scanOne cs = some (t, rest)) :
    rest.length < cs.length := by
  revert h
  fun_cases scanOne cs with
  | case1 => exact nofun
  | case2 | case3 | case4 | case5 | case6 | case7 =>
    intro h
    cases h
    exact Nat.lt_succ_self _
  | case8 =>
    intro h
    obtain ⟨⟨_, _⟩, hr, e⟩ := Option.map_eq_some_iff.1 h
    cases e
    exact Nat.lt_succ_of_lt (length_scanString_lt hr)
  | case9 | case10 | case11 =>
    intro h
    obtain ⟨_, hr, e⟩ := Option.map_eq_some_iff.1 h
    cases e
    exact Nat.lt_succ_of_le (length_after?_le hr)
  | case12 =>
    intro h
    obtain ⟨⟨_, _⟩, hr, e⟩ := Option.map_eq_some_iff.1 h
    cases e
    exact Number.length_scan_lt hr

/-- The tokens of a text. -/
def scan (cs : List Char) : Option (List Token) :=
  match _gap : cs.dropWhile isGap with
  | [] => some []
  | c :: rest =>
    match _one : scanOne (c :: rest) with
    | none => none
    | some (token, behind) => (scan behind).map (token :: ·)
  termination_by cs.length
  decreasing_by
    have := length_scanOne_lt _one
    have := (List.dropWhile_suffix (l := cs) isGap).length_le
    simp_all only
    omega

end Token

end Json

end ControllerLink
