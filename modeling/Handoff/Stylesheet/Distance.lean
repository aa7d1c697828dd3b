import Handoff.Stylesheet.Vocabulary

/-! # Edit distance and suggestions

The distance of two words is the least number of insertions, deletions and replacements that turn
one into the other. For an unknown property the nearest known ones are suggested.
-/

namespace Handoff.Stylesheet

/-- The rest of a row of the table of distances, from the value to the left and the row above, which
starts with the value above and to the left. -/
def distanceRowFrom (c : Char) (left : Nat) : List Char → List Nat → List Nat
  | d :: word, diagonal :: above :: row =>
    let value := if c == d then diagonal else 1 + min diagonal (min left above)
    value :: distanceRowFrom c value word (above :: row)
  | _, _ => []

/-- The row of the table of distances below a row, for one more character. -/
def distanceRow (word : List Char) (above : List Nat) (c : Char) : List Nat :=
  let first := above.headD 0 + 1
  first :: distanceRowFrom c first word above

def firstDistanceRow (word : List Char) : List Nat := List.range (word.length + 1)

/-- The edit distance of two words. -/
def distance (a b : List Char) : Nat :=
  (a.foldl (distanceRow b) (firstDistanceRow b)).getLastD 0

/-- How far a suggestion may be away. -/
def suggestionRadius : Nat := 2

def suggestionLimit : Nat := 3

/-- The candidates near a word with their distances, nearest first. -/
def nearest (word : List Char) (candidates : List String) : List (Nat × String) :=
  ((candidates.map fun candidate => (distance word candidate.toList, candidate)).filter
    fun scored => scored.1 ≤ suggestionRadius).mergeSort fun a b => a.1 ≤ b.1

def similar (word : List Char) (candidates : List String) : List String :=
  ((nearest word candidates).take suggestionLimit).map Prod.snd

end Handoff.Stylesheet
