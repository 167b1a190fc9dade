/-
# Shortest decimals

The decimal with the fewest digits that reads back as a given binary number,
and of those the nearest to it.  Every real in an interval around `m · 2^q`
rounds to it; on ever finer decimal grids the two neighbours of the number are
tried, in exact arithmetic, until one of them lies in that interval.
-/
import ControllerLink.Decimal.Binary

set_option autoImplicit false

namespace ControllerLink

/-- Which of two equally near neighbours is taken. -/
inductive Tie where
  | even
  | up
deriving DecidableEq, Repr

/-- The decimal `digits · 10^exponent`. -/
structure Decimal where
  digits : Nat
  exponent : Int
deriving DecidableEq, Repr, Inhabited

namespace Decimal

/-- The reals that round to a binary number, in quarters of its last place:
`[low, high] · scale / unit`, the number itself being `mid · scale / unit`. -/
structure Interval where
  low : Nat
  mid : Nat
  high : Nat
  /-- Whether the ends round to the number as well. -/
  closed : Bool
  scale : Nat
  unit : Nat

/-- The reals that round to `m · 2^q`.  Just above a power of two the numbers
below are twice as close. -/
def Interval.of (f : BinaryFormat) (m : Nat) (q : Int) : Interval :=
  let below := if m = Nat.pow 2 f.fractionBits && f.leastExponent < q then 1 else 2
  ⟨4 * m - below, 4 * m, 4 * m + 2, m % 2 == 0, Nat.pow 2 (q - 2).toNat, Nat.pow 2 (2 - q).toNat⟩

/-- The neighbour of the number on the grid `10^k` that lies in the interval;
of two the nearer. -/
def Interval.onGrid (i : Interval) (tie : Tie) (k : Int) : Option Nat :=
  let num := i.scale * Nat.pow 10 (-k).toNat
  let den := i.unit * Nat.pow 10 k.toNat
  let below := i.mid * num / den
  let above := below + 1
  let fits (c : Nat) : Bool :=
    0 < c && (if i.closed then i.low * num ≤ c * den && c * den ≤ i.high * num
      else i.low * num < c * den && c * den < i.high * num)
  let down := i.mid * num - below * den
  let rise := above * den - i.mid * num
  match fits below, fits above with
  | true, true =>
    if down < rise then some below
    else if rise < down then some above
    else if tie = .even && below % 2 == 0 then some below else some above
  | true, false => some below
  | false, true => some above
  | false, false => none

/-- The first hit on the grids `10^k, 10^(k-1), …`. -/
def Interval.search (i : Interval) (tie : Tie) : Nat → Int → Decimal
  | 0, k => ⟨i.mid * i.scale * Nat.pow 10 (-k).toNat / (i.unit * Nat.pow 10 k.toNat), k⟩
  | fuel + 1, k =>
    match i.onGrid tie k with
    | some digits => ⟨digits, k⟩
    | none => i.search tie fuel (k - 1)

/-- A power of ten not below `m · 2^q`, as its exponent. -/
def magnitude (m : Nat) (q : Int) : Int :=
  ((m.log2 : Int) + 1 + q) * 30103 / 100000 + 1

/-- The shortest decimal that reads back as `m · 2^q`, for positive `m`. -/
def shortest (f : BinaryFormat) (tie : Tie) (m : Nat) (q : Int) : Decimal :=
  (Interval.of f m q).search tie (f.fractionBits / 3 + 5) (magnitude m q)

end Decimal

end ControllerLink
