/-!
# Ranges of characters

Sets of characters as lists of closed intervals of their numbers.
-/

namespace StartOnReady.Text

/-- Whether a character lies in one of the intervals. -/
def inRanges (ranges : List (Nat × Nat)) (c : Char) : Bool :=
  ranges.any fun range => range.1 ≤ c.toNat && c.toNat ≤ range.2

end StartOnReady.Text
