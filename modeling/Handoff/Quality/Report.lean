import Handoff.Metrics.Score
import Handoff.Quality.Analysis
import Handoff.Report.Result

/-! # Report on quality

Six categories are scored and weighed into one score. Errors of the validation become issues, and
the scores lead to recommendations, to which those of the analysis are added, each once.
-/

namespace Handoff.Quality

open Text (Sighted)

structure Issue where
  file : String
  line : Int
  message : String
  category : String
deriving Repr, DecidableEq

def Issue.toJson (issue : Issue) : Json :=
  .object [("file", .string issue.file), ("line", .int issue.line),
    ("message", .string issue.message), ("category", .string issue.category)]

structure Categories where
  visual : Int
  code : Int
  performance : Int
  accessibility : Int
  maintainability : Int
  security : Int
deriving Repr, DecidableEq

namespace Categories

/-- All categories weighed together, summed in their order. -/
def overall (scores : Categories) : Int :=
  roundHalfUp (
    0.2 * Float.ofInt scores.visual + 0.25 * Float.ofInt scores.code +
    0.15 * Float.ofInt scores.performance + 0.15 * Float.ofInt scores.accessibility +
    0.15 * Float.ofInt scores.maintainability + 0.1 * Float.ofInt scores.security)

def toJson (scores : Categories) : Json :=
  .object [("visual", .int scores.visual), ("code", .int scores.code),
    ("performance", .int scores.performance), ("accessibility", .int scores.accessibility),
    ("maintainability", .int scores.maintainability), ("security", .int scores.security)]

end Categories

structure Report where
  overall : Int
  categories : Categories
  issues : List Issue
  recommendations : List String
deriving Repr, DecidableEq

abbrev FileFindings := String × List Finding

def issuesOf (validation : List FileFindings) : List Issue :=
  validation.flatMap fun (file, findings) =>
    (findings.filter Finding.isBlocking).map fun finding =>
      ⟨file, finding.line, finding.message, finding.category⟩

def warningCount (validation : List FileFindings) : Nat :=
  (validation.flatMap Prod.snd).countP (·.severity == .warning)

/-- Takes what puts raw markup or code into a page. -/
def unsafeSink : Sighted := fun before text =>
  (Text.Recogniser.anyWord
    ["dangerouslySetInnerHTML", "innerHTML", "v-html", "\x7b@html"] text).orElse fun _ =>
      if (before.map Text.isWord).getD false then none else Metrics.call "eval" text

def mediaQuery : Text.Recogniser :=
  .andThen (.word "@media") (.notBefore fun text => (text.head?.map Text.isWord).getD false)

def distinct (items : List String) : List String :=
  items.foldl (fun kept item => if kept.contains item then kept else kept ++ [item]) []

def categoriesOf (scores : Metrics.Scores) (issues warnings sinks : Nat) (placeholder : Bool) :
    Categories :=
  { visual := if placeholder then 50 else 90
    code := max 0 (100 - 10 * issues - 3 * warnings)
    performance := scores.performance
    accessibility := scores.accessibility
    maintainability := min 100 scores.maintainability
    security := max 0 (100 - 20 * sinks) }

def recommendationsOf (categories : Categories)
    (placeholder hasIssues isResponsive hasSinks : Bool) :
    List String :=
  Analysis.adviceIf placeholder
    "The design produced no shapes; check the selected node or file" ++
  Analysis.adviceIf hasIssues
    "Fix the validation errors reported for the generated files" ++
  Analysis.adviceIf (!isResponsive) "Add responsive design patterns" ++
  Analysis.adviceIf (categories.accessibility < 70) "Implement proper accessibility" ++
  Analysis.adviceIf (categories.maintainability < 50)
    "Split the component to improve maintainability" ++
  Analysis.adviceIf hasSinks "Avoid raw HTML injection in generated components"

/-- The report on some files, from the scores of the component, the findings in the files, their
texts and the advice for the design. -/
def Report.build (scores : Metrics.Scores) (validation : List FileFindings) (texts : List String)
    (advice : List String) (placeholder : Bool) : Report :=
  let issues := issuesOf validation
  let source := (Text.joinLines texts).toList
  let sinks := (Text.sightings unsafeSink source).length
  let categories := categoriesOf scores issues.length (warningCount validation) sinks placeholder
  { overall := categories.overall
    categories := categories
    issues := issues
    recommendations := distinct (
      recommendationsOf categories placeholder (!issues.isEmpty)
        (Text.occursFrom (fun _ => mediaQuery) none source) (sinks != 0) ++
      advice) }

def Report.toJson (report : Report) : Json :=
  .object [("overall", .int report.overall), ("categories", report.categories.toJson),
    ("issues", .list (report.issues.map Issue.toJson)),
    ("recommendations", .list (report.recommendations.map .string))]

end Handoff.Quality
