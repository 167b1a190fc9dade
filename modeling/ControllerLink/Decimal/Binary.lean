/-
# Binary floating-point numbers

A number of a binary interchange format is handled as its bit pattern, so that
nothing about it is lost.  This file reads a pattern as an exact `m · 2^q`, and
rounds exact quotients to the nearest pattern, a tie going to the even one.
-/
set_option autoImplicit false

namespace ControllerLink

/-- A binary interchange format: a sign, an exponent and a fraction. -/
structure BinaryFormat where
  fractionBits : Nat
  exponentBits : Nat

/-- Single precision. -/
def binary32 : BinaryFormat := ⟨23, 8⟩

/-- Double precision. -/
def binary64 : BinaryFormat := ⟨52, 11⟩

/-- What a bit pattern stands for. -/
inductive BinaryValue where
  /-- The number `± m · 2^q`. -/
  | finite (negative : Bool) (m : Nat) (q : Int)
  | infinite (negative : Bool)
  | notANumber
deriving DecidableEq, Repr

/-- The integer nearest to `num / den`; a half goes to the even neighbour. -/
def roundDiv (num den : Nat) : Nat :=
  let whole := num / den
  let rest := 2 * (num % den)
  if den < rest || (rest == den && whole % 2 == 1) then whole + 1 else whole

namespace BinaryFormat

variable (f : BinaryFormat)

/-- The exponent of the last place of the smallest numbers. -/
def leastExponent : Int :=
  2 - (Nat.pow 2 (f.exponentBits - 1) : Nat) - f.fractionBits

/-- The pattern of positive infinity. -/
def infinityBits : Nat :=
  (Nat.pow 2 f.exponentBits - 1) * Nat.pow 2 f.fractionBits

/-- The pattern of the sign alone. -/
def signBit : Nat :=
  Nat.pow 2 (f.exponentBits + f.fractionBits)

/-- What a bit pattern stands for. -/
def decode (bits : Nat) : BinaryValue :=
  let negative := bits / f.signBit % 2 == 1
  let fraction := bits % Nat.pow 2 f.fractionBits
  let exponent := bits / Nat.pow 2 f.fractionBits % Nat.pow 2 f.exponentBits
  if exponent = Nat.pow 2 f.exponentBits - 1 then
    if fraction = 0 then .infinite negative else .notANumber
  else if exponent = 0 then .finite negative fraction f.leastExponent
  else .finite negative (Nat.pow 2 f.fractionBits + fraction) (f.leastExponent + exponent - 1)

/-- The pattern of a number whose magnitude has the pattern `magnitude`. -/
def withSign (negative : Bool) (magnitude : Nat) : Nat :=
  if negative then f.signBit + magnitude else magnitude

/-- The nearest multiple of `2^q` to `num / den`, as that multiple. -/
def scaleRound (num den : Nat) (q : Int) : Nat :=
  if 0 ≤ q then roundDiv num (den * Nat.pow 2 q.toNat)
  else roundDiv (num * Nat.pow 2 (-q).toNat) den

/-- The pattern nearest to the positive quotient `num / den`; too large a
quotient gives infinity. -/
def round (num den : Nat) : Nat :=
  let guess : Int := (num.log2 : Int) - den.log2 - f.fractionBits
  let short := scaleRound num den guess < Nat.pow 2 f.fractionBits
  let q := max (if short then guess - 1 else guess) f.leastExponent
  let m := scaleRound num den q
  let bits :=
    if m < Nat.pow 2 f.fractionBits then m
    else (q - f.leastExponent).toNat * Nat.pow 2 f.fractionBits + m
  min bits f.infinityBits

/-- `m · 2^q` as a quotient of naturals. -/
def quotient (m : Nat) (q : Int) : Nat × Nat :=
  (m * Nat.pow 2 q.toNat, Nat.pow 2 (-q).toNat)

/-- The pattern nearest to a natural number. -/
def ofNat (n : Nat) : Nat :=
  if n = 0 then 0 else f.round n 1

/-- The pattern in the format `g` nearest to the number with a pattern of `f`. -/
def convert (g : BinaryFormat) (bits : Nat) : Nat :=
  match f.decode bits with
  | .finite negative m q =>
    let (num, den) := quotient m q
    g.withSign negative (if m = 0 then 0 else g.round num den)
  | .infinite negative => g.withSign negative g.infinityBits
  | .notANumber => g.infinityBits + Nat.pow 2 (g.fractionBits - 1)

/-- The pattern nearest to the product of two positive patterns. -/
def mul (a b : Nat) : Nat :=
  match f.decode a, f.decode b with
  | .finite _ m q, .finite _ n r =>
    let (num, den) := quotient (m * n) (q + r)
    if num = 0 then 0 else f.round num den
  | _, _ => f.infinityBits

/-- The pattern nearest to the quotient of two positive patterns. -/
def div (a b : Nat) : Nat :=
  match f.decode a, f.decode b with
  | .finite _ m q, .finite _ n r =>
    let (num, den) := quotient m (q - r)
    if num = 0 then 0 else f.round num (den * n)
  | _, _ => f.infinityBits

end BinaryFormat

end ControllerLink
