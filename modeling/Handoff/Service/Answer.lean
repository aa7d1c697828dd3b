import Handoff.Generation.Result
import Handoff.Json.Writer
import Handoff.Metrics.Summary
import Handoff.Service.Input

/-! # Answers of the tools

Answers are texts, in Markdown or as indented JSON. Long answers are cut off.
-/

namespace Handoff.Service

open Text (joinLines)

/-- How many characters an answer may have. -/
def answerLimit : Nat := 25000

def cutOff (answer : String) : String :=
  if answerLimit < answer.length then
    String.ofList (answer.toList.take answerLimit) ++ "\n\n... (truncated)"
  else answer

def inCode (text : String) : String := "`" ++ text ++ "`"

/-- The marks of languages by the endings of file names. -/
def fences : List (String × String) :=
  [(".tsx", "tsx"), (".jsx", "jsx"), (".ts", "typescript"), (".js", "javascript"), (".vue", "vue"),
   (".svelte", "svelte"), (".css", "css"), (".scss", "scss")]

/-- The mark of the language of a file, empty for an unknown one. -/
def fenceOf (fileName : String) : String :=
  ((fences.find? fun (ending, _) => Text.hasEnding ending fileName).map Prod.snd).getD ""

def withoutFinalNewlines (text : String) : String :=
  String.ofList ((text.toList.reverse.dropWhile (· == '\n')).reverse)

namespace GeneratedAnswer

def headLines (generated : Generated) (source : String) : List String :=
  let language := if generated.config.typescript then "TypeScript" else "JavaScript"
  ["# Generated Component: " ++ generated.artifacts.name,
   "**Framework:** " ++ generated.config.framework.name ++ " (" ++ language ++ ", " ++
     generated.artifacts.styling.name ++ ")",
   "**Source:** " ++ source,
   "**Build status:** " ++ generated.status.name,
   ""]

def scoreLines (generated : Generated) : List String :=
  let scores := generated.scores
  let bundle := scores.bundle
  ["## Metrics",
   "- Complexity: " ++ intText scores.complexity,
   "- Maintainability: " ++ intText scores.maintainability,
   "- Testability: " ++ intText scores.testability,
   "- Performance: " ++ intText scores.performance,
   "- Accessibility: " ++ intText scores.accessibility,
   "- Bundle: " ++ intText bundle.size ++ " bytes (~" ++ intText bundle.compressedSize ++
     " gzipped), " ++ intText bundle.modules ++ " imports",
   "- Quality score: " ++ intText generated.quality.overall,
   ""]

def logLine (log : BuildLog) : String :=
  "- **" ++ log.level ++ "** " ++ inCode (log.file ++ ":" ++ intText log.line) ++ " " ++ log.message

/-- A section with a title, left out when it is empty. -/
def titled (title : String) (lines : List String) : List String :=
  if lines.isEmpty then [] else [title] ++ lines ++ [""]

def fileLines (placed : PlacedFile) : List String :=
  ["",
   "### " ++ inCode placed.path ++ " (" ++ intText placed.size ++ " bytes)",
   "```" ++ fenceOf placed.name,
   withoutFinalNewlines placed.file.content,
   "```"]

def markdown (generated : Generated) (source : String) : String :=
  joinLines (
    headLines generated source ++ scoreLines generated ++
    titled "## Validation" (generated.logs.map logLine) ++
    titled "## Recommendations" (generated.quality.recommendations.map ("- " ++ ·)) ++
    ["## Files"] ++ generated.files.flatMap fileLines)

def render (format : AnswerFormat) (generated : Generated) (source : String) : String :=
  match format with
  | .json => cutOff generated.toJson.indented
  | .markdown => cutOff (markdown generated source)

end GeneratedAnswer

namespace ListingAnswer

def markdown (title : String) (ids : List String) : String :=
  joinLines (
    ["# Exportable Nodes: " ++ title, "**Count:** " ++ intText ids.length, ""] ++
    ids.map (fun id => "- " ++ inCode id) ++
    if ids.isEmpty then ["No frames or components found."] else [])

def toJson (fileKey : String) (name : Json) (ids : List String) : Json :=
  .object [("file_key", .string fileKey), ("name", name), ("node_ids", .list (ids.map .string))]

end ListingAnswer

namespace ValidationAnswer

def findingLines (finding : Finding) : List String :=
  ["- **" ++ finding.severity.name ++ "** [" ++ finding.category ++ "] line " ++
    intText finding.line ++ ", col " ++ intText finding.column ++ ": " ++ finding.message] ++
  ((finding.suggestion.filter (!·.isEmpty)).map ("  - Suggestion: " ++ ·)).toList

def markdown (result : ValidationResult) (language : Language) : String :=
  joinLines (
    ["# Validation Result (" ++ language.name ++ ")",
     "**Findings:** " ++ intText result.stats.total,
     "**Time:** " ++ placesText 1 0 ++ " ms",
     ""] ++
    if result.findings.isEmpty then ["No problems found."]
    else result.findings.flatMap findingLines)

def render (format : AnswerFormat) (result : ValidationResult) (language : Language) : String :=
  match format with
  | .json =>
    cutOff (Json.object (result.toFields ++ [("isValid", .bool result.isValid)])).indented
  | .markdown => cutOff (markdown result language)

end ValidationAnswer

namespace MetricsAnswer

def row (name value : String) : String := "| " ++ name ++ " | " ++ value ++ " |"

def markdown (scores : Metrics.Scores) (summary : Metrics.Summary) : String :=
  joinLines (
    ["# Code Metrics: " ++ summary.name,
     "**Type:** " ++ summary.kind ++ " component, " ++ intText summary.lines ++ " lines",
     "",
     row "Metric" "Value",
     row "---" "---",
     row "Complexity" (intText scores.complexity),
     row "Maintainability" (intText scores.maintainability),
     row "Testability" (intText scores.testability),
     row "Performance" (intText scores.performance),
     row "Accessibility" (intText scores.accessibility),
     row "Bundle size" (intText scores.bundle.size ++ " bytes"),
     row "Gzip estimate" (intText scores.bundle.compressedSize ++ " bytes"),
     row "Imports" (intText scores.bundle.modules),
     "",
     "**Props declarations:** " ++ intText summary.props,
     "**Hook calls:** " ++ intText summary.hooks] ++
    if summary.dependencies.isEmpty then []
    else ["**Dependencies:** " ++ ", ".intercalate (summary.dependencies.map inCode)])

def toJson (scores : Metrics.Scores) (summary : Metrics.Summary) : Json :=
  .object [("metrics", scores.toJson), ("component", summary.toJson)]

/-- The answer in a form; it is never cut off. -/
def render (format : AnswerFormat) (scores : Metrics.Scores) (summary : Metrics.Summary) : String :=
  match format with
  | .json => (toJson scores summary).indented
  | .markdown => markdown scores summary

end MetricsAnswer

end Handoff.Service
