/-
# Sets of characters

A property of characters is kept as a list of closed intervals of code points.
-/
set_option autoImplicit false

namespace ControllerLink.Text

/-- Whether a character lies in one of the intervals. -/
def inRanges (ranges : Array (Nat × Nat)) (c : Char) : Bool :=
  ranges.any fun r => r.1 ≤ c.toNat && c.toNat ≤ r.2

end ControllerLink.Text
