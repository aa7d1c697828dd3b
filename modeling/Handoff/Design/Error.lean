import Handoff.Json.Value

/-! # Faults in a design

Almost every malformed field of a design counts as absent. These are the faults that stop a reading.
-/

namespace Handoff

/-- Why a design cannot be read or painted. -/
inductive DesignError where
  /-- A number or a truth value stands where a list of gradient stops should be. -/
  | notIterable (kind : String)
  /-- A whole number is too large for a double. -/
  | integerTooLarge
  /-- A color channel is infinite. -/
  | infiniteChannel
  /-- A color channel is no number. -/
  | undefinedChannel
deriving Repr, DecidableEq

def DesignError.message : DesignError → String
  | .notIterable kind => "'" ++ kind ++ "' object is not iterable"
  | .integerTooLarge => "int too large to convert to float"
  | .infiniteChannel => "cannot convert float infinity to integer"
  | .undefinedChannel => "cannot convert float NaN to integer"

abbrev DesignResult := Except DesignError

/-- The number that a value spells: a number itself, or a text that is a numeral. Any other value
spells none, and a whole number beyond the range of doubles is a fault. -/
abbrev NumberReading := DesignResult (Option Float)

end Handoff
