/-
# Reading JSON numbers

A whole number of at most 64 bits is kept as it is.  Any other number becomes
double precision: as many leading digits as fit into 64 bits, times or divided
by powers of ten in double precision, each step rounded.
-/
import ControllerLink.Single

set_option autoImplicit false

namespace ControllerLink

namespace Json

/-- A number that was read. -/
inductive Number where
  | int (n : Int)
  | double (bits : UInt64)
deriving DecidableEq, Repr

namespace Number

/-- The nearest single-precision number. -/
def toSingle : Number → Single
  | int n => .ofInt n
  | double bits => .ofDouble bits

/-- The largest unsigned 64-bit number. -/
def wordLimit : Nat := Nat.pow 2 64 - 1

/-- The value of a decimal digit. -/
def digitValue (c : Char) : Nat := c.toNat - '0'.toNat

/-- The number that leading digits make as long as it fits, and how many digits are left over. -/
def wholeDigits : Nat → List Char → Nat × Nat
  | n, [] => (n, 0)
  | n, c :: cs =>
    if n * 10 + digitValue c ≤ wordLimit then wholeDigits (n * 10 + digitValue c) cs
    else (n, cs.length + 1)

/-- The number continued by leading digits as long as it fits, and how many digits were used. -/
def fractionDigits : Nat → List Char → Nat × Nat
  | n, [] => (n, 0)
  | n, c :: cs =>
    if n * 10 + digitValue c ≤ wordLimit then
      let (n', used) := fractionDigits (n * 10 + digitValue c) cs
      (n', used + 1)
    else (n, 0)

/-- The double-precision pattern of a power of ten. -/
def powerOfTen (k : Nat) : Nat := binary64.round (Nat.pow 10 k) 1

/-- A double-precision pattern times `10^e`, in steps of at most `10^308`; `none` if it is too
large.  A magnitude below `10^20` is zero after two such divisions. -/
def scaleBy : Nat → Nat → Int → Option Nat
  | 0, bits, _ => some bits
  | fuel + 1, bits, e =>
    if e.natAbs ≤ 308 then
      if 0 ≤ e then
        let scaled := binary64.mul bits (powerOfTen e.natAbs)
        if scaled = binary64.infinityBits then none else some scaled
      else some (binary64.div bits (powerOfTen e.natAbs))
    else if bits = 0 then some 0
    else if 0 ≤ e then none
    else scaleBy fuel (binary64.div bits (powerOfTen 308)) (e + 308)

/-- The double-precision number `± digits · 10^e`. -/
def ofParts (negative : Bool) (digits : Nat) (e : Int) : Option Number :=
  (scaleBy 4 (binary64.ofNat digits) e).map fun magnitude =>
    double (UInt64.ofNat (binary64.withSign negative magnitude))

/-- A whole number without a point or an exponent. -/
def ofWhole (negative : Bool) (n : Nat) : Number :=
  if !negative then int n
  else if n = 0 ∨ Nat.pow 2 63 < n then
    double (UInt64.ofNat (binary64.withSign true (binary64.ofNat n)))
  else int (-n)

/-- An exponent: its sign, and its digits. -/
structure Exponent where
  negative : Bool
  digits : List Char

/-- The number with the given parts. -/
def ofDigits (negative : Bool) (whole : List Char) (fraction : Option (List Char))
    (exponent : Option Exponent) : Option Number :=
  let (n, left) := wholeDigits 0 whole
  if left = 0 ∧ fraction = none ∧ exponent.isNone then some (ofWhole negative n)
  else
    let (digits, used) := fractionDigits n (fraction.getD [])
    let shift : Int := (left : Int) - used
    match exponent with
    | none => ofParts negative digits shift
    | some x =>
      let e := x.digits.foldl (fun k c => 10 * k + digitValue c) 0
      if Nat.pow 2 31 ≤ e then
        if digits ≠ 0 ∧ !x.negative then none else ofParts negative 0 0
      else ofParts negative digits (if x.negative then shift - e else shift + e)

/-- Split off the leading digits. -/
def spanDigits (cs : List Char) : List Char × List Char :=
  (cs.takeWhile Char.isDigit, cs.dropWhile Char.isDigit)

/-- Split off a minus sign. -/
def splitMinus : List Char → Bool × List Char
  | '-' :: cs => (true, cs)
  | cs => (false, cs)

/-- Split off a sign. -/
def splitSign : List Char → Bool × List Char
  | '+' :: cs => (false, cs)
  | cs => splitMinus cs

/-- The exponent at the front of a text, if one begins there; `none` if it is broken off. -/
def scanExponent : List Char → Option (Option Exponent × List Char)
  | c :: cs =>
    if c = 'e' ∨ c = 'E' then
      let signed := splitSign cs
      let digits := spanDigits signed.2
      if digits.1 = [] then none else some (some ⟨signed.1, digits.1⟩, digits.2)
    else some (none, c :: cs)
  | [] => some (none, [])

/-- The fraction at the front of a text, if one begins there; `none` if it is broken off. -/
def scanFraction : List Char → Option (Option (List Char) × List Char)
  | '.' :: cs =>
    let digits := spanDigits cs
    if digits.1 = [] then none else some (some digits.1, digits.2)
  | cs => some (none, cs)

/-- The number at the front of a text, and the text behind it.  A zero is not followed by
further digits. -/
def scan (cs : List Char) : Option (Number × List Char) :=
  let signed := splitMinus cs
  let whole := spanDigits signed.2
  if whole.1 = [] ∨ (whole.1.head? = some '0' ∧ whole.1 ≠ ['0']) then none
  else do
    let (fraction, rest) ← scanFraction whole.2
    let (exponent, rest) ← scanExponent rest
    let n ← ofDigits signed.1 whole.1 fraction exponent
    return (n, rest)

/-! ## What a scan leaves -/

theorem length_spanDigits_le (cs : List Char) : (spanDigits cs).2.length ≤ cs.length :=
  (List.dropWhile_suffix _).length_le

theorem length_spanDigits_lt {cs : List Char} (h : (spanDigits cs).1 ≠ []) :
    (spanDigits cs).2.length < cs.length := by
  have e := congrArg List.length (List.takeWhile_append_dropWhile (p := Char.isDigit) (l := cs))
  have p := List.length_pos_iff.2 h
  simp only [spanDigits, List.length_append] at *
  omega

theorem length_splitMinus_le (cs : List Char) : (splitMinus cs).2.length ≤ cs.length := by
  unfold splitMinus
  split <;> simp

theorem length_splitSign_le (cs : List Char) : (splitSign cs).2.length ≤ cs.length := by
  unfold splitSign
  split
  · simp
  · exact length_splitMinus_le _

theorem length_scanFraction_le {cs rest : List Char} {x : Option (List Char)}
    (h : scanFraction cs = some (x, rest)) : rest.length ≤ cs.length := by
  unfold scanFraction at h
  split at h
  · next cs =>
    have := length_spanDigits_le cs
    dsimp only at h
    split at h
    · cases h
    · cases h
      exact Nat.le_succ_of_le this
  · cases h
    exact Nat.le_refl _

theorem length_scanExponent_le {cs rest : List Char} {x : Option Exponent}
    (h : scanExponent cs = some (x, rest)) : rest.length ≤ cs.length := by
  unfold scanExponent at h
  split at h
  · next c cs =>
    have hd := length_spanDigits_le (splitSign cs).2
    have hs := length_splitSign_le cs
    split at h
    · dsimp only at h
      split at h
      · cases h
      · cases h
        exact Nat.le_succ_of_le (Nat.le_trans hd hs)
    · cases h
      exact Nat.le_refl _
  · cases h
    exact Nat.le_refl _

/-- A number takes at least one character. -/
theorem length_scan_lt {cs rest : List Char} {n : Number} (h : scan cs = some (n, rest)) :
    rest.length < cs.length := by
  unfold scan at h
  dsimp only at h
  split at h
  · cases h
  · next hw =>
    have hd := length_spanDigits_lt fun e => hw (Or.inl e)
    have hs := length_splitMinus_le cs
    simp only [Option.bind_eq_bind, Option.bind_eq_some_iff, Prod.exists] at h
    obtain ⟨_, _, hf, _, _, he, _, _, hr⟩ := h
    cases hr
    have := length_scanFraction_le hf
    have := length_scanExponent_le he
    omega

end Number

end Json

end ControllerLink
