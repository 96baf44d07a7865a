/-!
# Sets of characters

A property of characters given by a table: the ranges of code points that have it, in increasing
order, both ends included.
-/

namespace AgentFeed.Text

/-- Whether a character lies in one of the ranges. -/
def inRanges (ranges : List (Nat × Nat)) (c : Char) : Bool :=
  ranges.any fun (first, last) => first ≤ c.toNat && c.toNat ≤ last

end AgentFeed.Text
