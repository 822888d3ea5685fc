/-!
# Sets of characters

A property of characters that a standard fixes is given as a list of ranges of code points, both
ends included, in ascending order.
-/

set_option autoImplicit false

namespace HostOverlay.Text

/-- Does the code point of `c` lie in one of the ranges? -/
def inRanges (ranges : List (Nat × Nat)) (c : Char) : Bool :=
  ranges.any fun (first, last) => first ≤ c.toNat && c.toNat ≤ last

end HostOverlay.Text
