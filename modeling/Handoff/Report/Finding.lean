import Handoff.Json.Value

/-! # Findings

A finding says what is wrong with a source and where. Only an error makes the source invalid.
-/

namespace Handoff

inductive Severity where
  | error | warning | info
deriving Repr, DecidableEq

namespace Severity

def name : Severity → String
  | error => "error"
  | warning => "warning"
  | info => "info"

def all : List Severity := [error, warning, info]

end Severity

inductive RuleCode where
  | number (n : Int)
  | label (name : String)
deriving Repr, DecidableEq

def RuleCode.toJson : RuleCode → Json
  | number n => .int n
  | label name => .string name

/-- One thing found in a source; line and column count from one. -/
structure Finding where
  line : Int
  column : Int
  message : String
  severity : Severity
  source : String
  category : String
  suggestion : Option String := none
  code : Option RuleCode := none
deriving Repr, DecidableEq

namespace Finding

def isBlocking (finding : Finding) : Bool := finding.severity == .error

/-- The finding as JSON; a missing suggestion or code is left out. -/
def toJson (finding : Finding) : Json :=
  .object ([("line", .int finding.line), ("column", .int finding.column),
    ("message", .string finding.message), ("severity", .string finding.severity.name),
    ("source", .string finding.source), ("category", .string finding.category)] ++
    (finding.suggestion.map fun s => ("suggestion", Json.string s)).toList ++
    (finding.code.map fun c => ("code", c.toJson)).toList)

end Finding

end Handoff
