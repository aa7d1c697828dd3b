/-! # Ranges of code points

A character property is given as a list of closed ranges of code points; membership is a search of
that list.
-/

namespace Handoff.Text

def inRanges (ranges : List (Nat × Nat)) (code : Nat) : Bool :=
  ranges.any fun range => range.1 ≤ code && code ≤ range.2

end Handoff.Text
