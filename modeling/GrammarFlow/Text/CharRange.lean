/-!
Sets of characters given by closed ranges of code points, smallest first. A table of such ranges
is the data of a character property; `inRanges` decides it.
-/

namespace GrammarFlow.Text

/-- The code points from the first to the second, both included. -/
abbrev CharRange := Nat × Nat

def inRanges (ranges : List CharRange) (c : Char) : Bool :=
  ranges.any fun (low, high) => low ≤ c.toNat && c.toNat ≤ high

end GrammarFlow.Text
