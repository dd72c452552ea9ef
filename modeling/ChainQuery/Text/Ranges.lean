/-!
# Character classes as sorted ranges

Looking a code point up in a sorted list of ranges with both ends included.
-/

namespace ChainQuery.Text

/-- Whether a code point lies in one of the ranges; the search stops at the first range above it. -/
def inRanges : List (Nat × Nat) → Nat → Bool
  | [], _ => false
  | (first, last) :: rest, n => if n < first then false else n ≤ last || inRanges rest n

end ChainQuery.Text
