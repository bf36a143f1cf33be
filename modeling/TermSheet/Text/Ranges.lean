/-!
# Ranges of code points

A character class is written as the list of its ranges, both ends included.
-/

namespace TermSheet.Text

/-- Whether a code point lies in one of the ranges. -/
def inRanges (ranges : List (Nat × Nat)) (code : Nat) : Bool :=
  ranges.any fun (low, high) => low ≤ code && code ≤ high

end TermSheet.Text
