import Handoff.Component.Artifacts
import Handoff.Generation.Preview
import Handoff.Quality.Report
import Handoff.Validation.Language

/-! # Result of a generation

The files of a component, each with its place, what the validation found in them, how the component
scores, and what is said of the design. When a generation took place is not modelled: times stand as
zero.
-/

namespace Handoff

def Language.ofFile (fileName : String) (framework : Framework) : Language :=
  if Text.hasEnding ".scss" fileName then .scss
  else if Text.hasEnding ".css" fileName then .css
  else if Text.hasEnding ".vue" fileName then .vue
  else if Text.hasEnding ".svelte" fileName then .svelte
  else if framework == .angular && Text.mentions ".component." fileName then .angular
  else if Text.hasEnding ".jsx" fileName || Text.hasEnding ".js" fileName then .javascript
  else .typescript

structure PlacedFile where
  path : String
  file : SourceFile
deriving Repr, DecidableEq

namespace PlacedFile

def name (placed : PlacedFile) : String := placed.file.name

def size (placed : PlacedFile) : Nat := placed.file.content.utf8ByteSize

def toJson (placed : PlacedFile) : Json :=
  .object [("path", .string placed.path), ("name", .string placed.name),
    ("content", .string placed.file.content), ("size", .int placed.size)]

end PlacedFile

def sourcesByName (files : List PlacedFile) : Entries String :=
  .ofList (files.map fun placed => (placed.name, placed.file.content))

def componentFolder (name : String) : String := "src/components/" ++ name

def pathIn (folder name : String) : String := folder ++ "/" ++ name

def Artifacts.placed (artifacts : Artifacts) : List PlacedFile :=
  artifacts.files.map fun file => ⟨pathIn (componentFolder artifacts.name) file.name, file⟩

/-- The places of a component's files, by what the files hold. -/
structure Structure where
  root : String
  components : List String
  styles : List String
  types : List String
  tests : List String
deriving Repr, DecidableEq

namespace Structure

def ofArtifacts (artifacts : Artifacts) : Structure :=
  let root := componentFolder artifacts.name
  let places (files : List SourceFile) := files.map fun file => pathIn root file.name
  { root := root
    components := places [artifacts.component]
    styles := places [artifacts.stylesheet]
    types := places artifacts.types.toList
    tests := places artifacts.test.toList }

def toJson (places : Structure) : Json :=
  let strings (items : List String) := Json.list (items.map .string)
  .object [("root", .string places.root), ("components", strings places.components),
    ("styles", strings places.styles), ("types", strings places.types),
    ("tests", strings places.tests)]

end Structure

/-- A line of the log of a build: an error or a warning in a file. -/
structure BuildLog where
  isError : Bool
  file : String
  line : Int
  message : String
deriving Repr, DecidableEq

namespace BuildLog

def level (log : BuildLog) : String := if log.isError then "error" else "warn"

def toJson (log : BuildLog) : Json :=
  .object [("level", .string log.level), ("file", .string log.file), ("line", .int log.line),
    ("message", .string log.message)]

/-- The line for a finding in a file, unless it is only information. -/
def ofFinding? (file : String) (finding : Finding) : Option BuildLog :=
  match finding.severity with
  | .error => some ⟨true, file, finding.line, finding.message⟩
  | .warning => some ⟨false, file, finding.line, finding.message⟩
  | .info => none

end BuildLog

inductive BuildStatus where
  | error | warning | success
deriving Repr, DecidableEq

namespace BuildStatus

def name : BuildStatus → String
  | error => "error"
  | warning => "warning"
  | success => "success"

def ofLogs (logs : List BuildLog) : BuildStatus :=
  if logs.any (·.isError) then error else if logs.isEmpty then success else warning

end BuildStatus

abbrev FileResults := Entries ValidationResult

def validateFile (compiler : Compiler) (framework : Framework) (placed : PlacedFile) :
    ValidationResult :=
  Validation.validate compiler (some placed.file.content)
    (Language.ofFile placed.name framework).name

/-- The results for files by their names, given the results in the order of the files. -/
def resultsByName (files : List PlacedFile) (results : List ValidationResult) : FileResults :=
  .ofList ((files.map PlacedFile.name).zip results)

def buildLogs (results : FileResults) : List BuildLog :=
  results.flatMap fun (file, result) => result.findings.filterMap (BuildLog.ofFinding? file)

structure Generated where
  session : String
  config : Config
  artifacts : Artifacts
  files : List PlacedFile
  places : Structure
  scores : Metrics.Scores
  styleBundle : Metrics.Bundle
  validation : FileResults
  status : BuildStatus
  logs : List BuildLog
  quality : Quality.Report
  analysis : Quality.Analysis
  preview : String
deriving Repr, DecidableEq

namespace Generated

def timestamp : String := "1970-01-01T00:00:00+00:00"

def isValid (generated : Generated) : Bool := generated.validation.all fun (_, result) =>
  result.isValid

def toJson (generated : Generated) : Json :=
  .object [
    ("id", .string generated.session),
    ("timestamp", .string timestamp),
    ("config", generated.config.toJson),
    ("files", .list (generated.files.map PlacedFile.toJson)),
    ("structure", generated.places.toJson),
    ("metrics", generated.scores.toJson),
    ("styleBundle", generated.styleBundle.toJson),
    ("validation", .object (generated.validation.map fun (file, result) => (file, result.toJson))),
    ("isValid", .bool generated.isValid),
    ("buildStatus", .string generated.status.name),
    ("buildLogs", .list (generated.logs.map BuildLog.toJson)),
    ("quality", generated.quality.toJson),
    ("designAnalysis", generated.analysis.toJson),
    ("preview", .string generated.preview),
    ("generationTimeMs", .float 0)]

end Generated

end Handoff
