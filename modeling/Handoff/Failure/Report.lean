import Handoff.Failure.Basic
import Handoff.Number.Text
import Handoff.Text.Case
import Handoff.Text.Lines

/-! # Reporting failures

A failure is put into a class, by its kind or else by the words of its message, and each class has
its advice. A report holds what a user is shown; an answer is the one text that a tool gives instead
of a result.
-/

namespace Handoff

inductive FailureClass where
  | figma | network | validation | generation | general
deriving Repr, DecidableEq

namespace FailureClass

def name : FailureClass → String
  | figma => "figma"
  | network => "network"
  | validation => "validation"
  | generation => "generation"
  | general => "general"

def suggestion : FailureClass → String
  | figma => "Check your Figma URL and ensure the file is publicly accessible or you have the " ++
      "right permissions."
  | network => "Check your internet connection and try again."
  | validation => "Please check your code for syntax errors and try again."
  | generation => "There was an issue generating the code. Please try with a different design."
  | general => "An unexpected error occurred. Please try again."

def ofKind? (kind : FailureKind) : Option FailureClass :=
  match kind with
  | .httpStatus _ => some figma
  | .badOptions => some validation
  | .missingInput => some generation
  | kind => if kind.isNetwork then some network else none

/-- The words of a message that decide the class, the first one found. -/
def words : List (String × FailureClass) :=
  [("figma", figma), ("network", network), ("fetch", network), ("validation", validation),
   ("generation", generation)]

def ofMessage (message : String) : FailureClass :=
  let lowered := Text.lower message.toList
  ((words.find? fun (word, _) => Text.holds word.toList lowered).map Prod.snd).getD general

def classify (message : String) (failure : Option Failure) : FailureClass :=
  ((failure.bind fun f => ofKind? f.kind)).getD (ofMessage message)

end FailureClass

structure FailureReport where
  message : String
  kind : FailureClass
  code : Option String
  details : String
deriving Repr, DecidableEq

namespace Failure

/-- What a failure says, or its name if it says nothing. -/
def shownText (failure : Failure) : String :=
  if failure.text.isEmpty then failure.kind.name else failure.text

/-- The full name of a failure's kind, and its cause. -/
def details (failure : Failure) : String :=
  let name := failure.kind.home ++ "." ++ failure.kind.name
  match failure.cause with
  | none => name
  | some cause => name ++ " (caused by " ++ cause.kind.name ++ ": " ++ cause.text ++ ")"

def statusCode? (failure : Failure) : Option String :=
  match failure.kind with
  | .httpStatus status => some (intText status)
  | _ => none

def toClass (failure : Failure) : FailureClass :=
  FailureClass.classify failure.shownText (some failure)

/-- The report on a failure; a code from outside comes before its own. -/
def report (failure : Failure) (code : Option String) : FailureReport :=
  { message := failure.shownText
    kind := failure.toClass
    code := code.orElse fun _ => failure.statusCode?
    details := failure.details }

def statusAnswer (status : Int) : String :=
  if status == 401 then
    "Error: Invalid Figma API token. Check your FIGMA_ACCESS_TOKEN environment variable."
  else if status == 403 then
    "Error: Access denied. You don't have permission to view this file."
  else if status == 404 then
    "Error: File or node not found. Check the file key and node ID."
  else if status == 429 then
    "Error: Rate limit exceeded. Please wait before making more requests."
  else "Error: Figma API returned status " ++ intText status

def answer (failure : Failure) : String :=
  match failure.kind with
  | .httpStatus status => statusAnswer status
  | kind =>
    if kind.isTimeout then "Error: Request timed out. The file might be too large."
    else if kind.blamesInput then "Error: " ++ failure.text
    else
      "Error: " ++ kind.name ++ ": " ++ failure.text ++ "\n\n" ++ failure.toClass.suggestion

end Failure

namespace FailureReport

/-- The report as JSON; an empty code is left out. -/
def toJson (report : FailureReport) : Json :=
  .object ([("message", .string report.message), ("type", .string report.kind.name),
    ("suggestion", .string report.kind.suggestion)] ++
    ((report.code.filter (!·.isEmpty)).map fun code => ("code", Json.string code)).toList ++
    [("details", .string report.details)])

end FailureReport

end Handoff
