/-
# Durations

A span of time as whole seconds and nanoseconds, how it is shown in the largest
fitting unit, and how it is read from text: `150ms`, `2s`, or plain seconds.
-/
import ControllerLink.Text.Blank

set_option autoImplicit false

namespace ControllerLink

/-- A span of time. -/
structure Duration where
  seconds : Nat
  nanos : Nat
deriving DecidableEq, Repr, Inhabited

namespace Duration

/-- So many milliseconds. -/
def ofMillis (n : Nat) : Duration := ⟨n / 1000, 1000000 * (n % 1000)⟩

/-- So many seconds. -/
def ofSeconds (n : Nat) : Duration := ⟨n, 0⟩

/-- Whether no time passes. -/
def isZero (d : Duration) : Bool := d.seconds == 0 && d.nanos == 0

/-! ## Showing -/

/-- A part of a whole as the digits after a point, `scale` being a power of ten
with `places` zeros; nothing when there is no part. -/
def fractionText (places part : Nat) : String :=
  if part = 0 then ""
  else
    let digits := Nat.toDigits 10 part
    let padded := List.replicate (places - digits.length) '0' ++ digits
    "." ++ String.ofList (padded.reverse.dropWhile (· == '0')).reverse

/-- A duration in the largest unit that leaves something before the point. -/
def text (d : Duration) : String :=
  if 0 < d.seconds then toString d.seconds ++ fractionText 9 d.nanos ++ "s"
  else if 1000000 ≤ d.nanos then
    toString (d.nanos / 1000000) ++ fractionText 6 (d.nanos % 1000000) ++ "ms"
  else if 1000 ≤ d.nanos then
    toString (d.nanos / 1000) ++ fractionText 3 (d.nanos % 1000) ++ "µs"
  else toString d.nanos ++ "ns"

/-! ## Reading -/

/-- Why a text is no duration. -/
inductive ParseError where
  | empty
  | invalid (text : String)
  | zero
deriving DecidableEq, Repr

/-- The wording of an error. -/
def ParseError.message : ParseError → String
  | empty => "duration must not be empty"
  | invalid text => "invalid duration value: " ++ text
  | zero => "duration must be greater than zero"

/-- Units of time in a text. -/
inductive Scale where
  | milliseconds
  | seconds
deriving DecidableEq, Repr

/-- So many of a unit. -/
def Scale.times : Scale → Nat → Duration
  | milliseconds, n => ofMillis n
  | seconds, n => ofSeconds n

/-- The number in a text split off from its unit. -/
def splitScale (cs : List Char) : List Char × Scale :=
  match cs.reverse with
  | 's' :: 'm' :: number => (number.reverse, .milliseconds)
  | 's' :: number => (number.reverse, .seconds)
  | _ => (cs, .seconds)

/-- The number that decimal digits make. -/
def digitsValue (cs : List Char) : Nat :=
  cs.foldl (fun n c => 10 * n + (c.toNat - '0'.toNat)) 0

/-- An unsigned number of at most `limit`: digits, with a plus sign allowed before them. -/
def parseNumber? (limit : Nat) (cs : List Char) : Option Nat :=
  let digits := match cs with
    | '+' :: rest => rest
    | _ => cs
  if digits ≠ [] ∧ digits.all Char.isDigit then
    let n := digitsValue digits
    if n ≤ limit then some n else none
  else none

/-- Read a duration; blanks at either end do not count. -/
def parse (input : String) : Except ParseError Duration :=
  let cs := Text.trimChars input.toList
  if cs = [] then .error .empty
  else
    let (number, scale) := splitScale cs
    match parseNumber? (Nat.pow 2 64 - 1) number with
    | none => .error (.invalid (String.ofList cs))
    | some 0 => .error .zero
    | some n => .ok (scale.times n)

/-! ## Sleeping -/

/-- Seconds that a point in time can count: the largest signed 64-bit number. -/
def instantLimit : Nat := Nat.pow 2 63 - 1

/-- The point in time a duration after another one, both since the same origin, unless it is
too late to be counted. -/
def deadline? (now d : Duration) : Option Duration :=
  let nanos := now.nanos + d.nanos
  let seconds := now.seconds + d.seconds + nanos / 1000000000
  if seconds ≤ instantLimit then some ⟨seconds, nanos % 1000000000⟩ else none

end Duration

end ControllerLink
