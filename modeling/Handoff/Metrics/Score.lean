import Handoff.Json.Value
import Handoff.Metrics.Import
import Handoff.Metrics.Pattern
import Handoff.Number.Rounding

/-! # Scores of a source

Every score is worked out from the text alone. All but maintainability lie between zero and a
hundred.
-/

namespace Handoff.Metrics

open Text (countAll countOf)

/-- How many lines a source has. -/
def lineCount (code : List Char) : Nat := code.count '\n' + 1

def complexityLimit : Nat := 100

/-- One, and one more for each branch. -/
def complexity (code : List Char) : Nat := min (1 + countAll branches code) complexityLimit

def commentCount (code : List Char) : Nat := countOf comment code

/-- What falls with length and complexity and swings with the number of comments. -/
def maintainabilityIndex (lines complexity comments : Nat) : Float :=
  171 - 5.2 * (Float.ofNat lines).log - 0.23 * Float.ofNat complexity
    - 16.2 * (Float.ofNat (lines + 1)).log + 50 * (2.4 * Float.ofNat comments).sqrt.sin

/-- The index as a whole number, zero at least. -/
def maintainability (code : List Char) : Int :=
  let index := maintainabilityIndex (lineCount code) (complexity code) (commentCount code)
  roundHalfUp (if 0 < index then index else 0)

/-- A score brought between zero and a hundred. -/
def clamp (score : Int) : Int := max 0 (min score 100)

/-- Side effects make a component hard to test, purity makes it easy. -/
def testability (code : List Char) : Int :=
  clamp (100 - 5 * countOf sideEffects code + 10 * countOf purity code)

/-- What slows a component down against what speeds it up. -/
def performance (code : List Char) : Int :=
  clamp (100 - 5 * countAll inefficiencies code + 3 * countAll optimizations code)

/-- What makes a component accessible against what keeps people out. -/
def accessibility (code : List Char) : Int :=
  clamp (50 + 5 * countAll aids code - 10 * countAll barriers code)

/-- What a source adds to a bundle. -/
structure Bundle where
  size : Nat
  compressedSize : Int
  modules : Nat
deriving Repr, DecidableEq

/-- The estimate for a source: its bytes, three tenths of them, and its imports. -/
def Bundle.ofCode (code : String) : Bundle :=
  { size := code.utf8ByteSize
    compressedSize := roundHalfUp (Float.ofNat code.utf8ByteSize * 0.3)
    modules := (imports code.toList).length }

def Bundle.toJson (bundle : Bundle) : Json :=
  .object [("size", .int bundle.size), ("gzipSize", .int bundle.compressedSize),
    ("modules", .int bundle.modules)]

structure Scores where
  complexity : Nat
  maintainability : Int
  testability : Int
  performance : Int
  accessibility : Int
  bundle : Bundle
deriving Repr, DecidableEq

namespace Scores

def ofCode (code : String) : Scores :=
  let text := code.toList
  { complexity := Metrics.complexity text
    maintainability := Metrics.maintainability text
    testability := Metrics.testability text
    performance := Metrics.performance text
    accessibility := Metrics.accessibility text
    bundle := .ofCode code }

def toJson (scores : Scores) : Json :=
  .object [("complexity", .int scores.complexity), ("maintainability", .int scores.maintainability),
    ("testability", .int scores.testability), ("performance", .int scores.performance),
    ("accessibility", .int scores.accessibility), ("bundle", scores.bundle.toJson)]

end Scores

end Handoff.Metrics
