import Handoff.Report.Finding

/-! # Results of validation

A result lists its findings in the order in which they were met and counts them by category and by
severity. The time it took is not part of what is modelled and stands as zero.
-/

namespace Handoff

/-- Counts by name, in the order in which the names were first met. -/
abbrev Tally := List (String × Nat)

namespace Tally

def add (name : String) : Tally → Tally
  | [] => [(name, 1)]
  | entry :: rest =>
    if entry.1 == name then (name, entry.2 + 1) :: rest else entry :: add name rest

def ofNames (names : List String) : Tally := names.foldl (fun tally name => tally.add name) []

def total (tally : Tally) : Nat := (tally.map Prod.snd).foldr (· + ·) 0

def toJson (tally : Tally) : Json := .object (tally.map fun (name, count) => (name, .int count))

theorem total_add (name : String) (tally : Tally) : (tally.add name).total = tally.total + 1 := by
  induction tally with
  | nil => rfl
  | cons entry rest ih =>
    unfold add
    split
    · simp [total]; omega
    · simp only [total, List.map_cons, List.foldr_cons] at ih ⊢; omega

end Tally

structure Stats where
  total : Nat
  byCategory : Tally
  bySeverity : Tally
deriving Repr, DecidableEq

namespace Stats

def categoryOf (finding : Finding) : String :=
  if finding.category.isEmpty then "unknown" else finding.category

def ofFindings (findings : List Finding) : Stats :=
  { total := findings.length
    byCategory := .ofNames (findings.map categoryOf)
    bySeverity := .ofNames (findings.map (·.severity.name)) }

def toJson (stats : Stats) : Json :=
  .object [("totalErrors", .int stats.total), ("errorsByCategory", stats.byCategory.toJson),
    ("errorsBySeverity", stats.bySeverity.toJson), ("validationTime", .float 0)]

end Stats

/-- The findings of a source together with their counts. -/
structure ValidationResult where
  findings : List Finding
  stats : Stats
deriving Repr, DecidableEq

namespace ValidationResult

def ofFindings (findings : List Finding) : ValidationResult :=
  { findings := findings, stats := .ofFindings findings }

/-- A source is valid if no finding is an error. -/
def isValid (result : ValidationResult) : Bool := !result.findings.any Finding.isBlocking

def ofSeverity (result : ValidationResult) (severity : Severity) : List Finding :=
  result.findings.filter (·.severity == severity)

def toFields (result : ValidationResult) : Json.Fields :=
  [("errors", .list (result.findings.map Finding.toJson)), ("stats", result.stats.toJson)]

def toJson (result : ValidationResult) : Json := .object result.toFields

end ValidationResult

end Handoff
