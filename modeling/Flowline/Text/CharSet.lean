/-!
Sets of characters given by the sorted bounds of their ranges. The bounds at even places start a range
and the ones after them end it, so a character is in the set when an odd number of bounds are at or
below its code point.
-/

namespace Flowline.Text

/-- A set of characters: the first code point of each range and the first one after it, in order. -/
structure CharSet where
  bounds : Array Nat

namespace CharSet

/-- How many of the sorted bounds from `low` up to `high` are at or below `code`, counted from zero. -/
def rank (s : CharSet) (code low high : Nat) : Nat :=
  if low < high then
    let middle := (low + high) / 2
    if s.bounds.getD middle 0 ≤ code then s.rank code (middle + 1) high
    else s.rank code low middle
  else low
termination_by high - low

def contains (s : CharSet) (c : Char) : Bool := s.rank c.toNat 0 s.bounds.size % 2 = 1

end CharSet

end Flowline.Text
