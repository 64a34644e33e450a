/-!
# Sets of characters given by ranges

A property of characters is listed as ranges of code points. Membership is a plain search, so that
statements about a table are statements about its list.
-/

namespace JsonTyping

/-- A list of code point ranges, both ends included. -/
abbrev CharRanges := List (Nat × Nat)

/-- Whether a character lies in one of the ranges. -/
def CharRanges.contains (ranges : CharRanges) (c : Char) : Bool :=
  ranges.any fun (low, high) ↦ low ≤ c.toNat && c.toNat ≤ high

end JsonTyping
