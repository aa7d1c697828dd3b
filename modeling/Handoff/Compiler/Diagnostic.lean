import Handoff.Report.Finding
import Handoff.Text.Lines

/-! # Diagnostics of TypeScript sources

A compiler answers with diagnostics or fails as a whole. Diagnostics that only tell that a file was
compiled on its own are left out; the others become findings.
-/

namespace Handoff

namespace Compiler

/-- What a compiler says about a source; line and character count from zero. -/
structure Diagnostic where
  line : Int
  character : Int
  code : Int
  message : String
  category : String := "error"
deriving Repr, DecidableEq

end Compiler

/-- Checks a source under a file name; a failure is told in words. -/
abbrev Compiler := String → String → Except String (List Compiler.Diagnostic)

namespace Compiler

/-- The codes that only tell that a file was compiled without its project. -/
def environmentalCodes : List Int := [2307, 2304, 2503, 2686, 2875, 7016, 7026]

/-- Whether a diagnostic only tells that a file was compiled without its project. -/
def Diagnostic.isEnvironmental (diagnostic : Diagnostic) : Bool :=
  environmentalCodes.contains diagnostic.code ||
    ((diagnostic.code == 2339 || diagnostic.code == 2322) &&
      (Text.holds "JSX.IntrinsicElements".toList diagnostic.message.toList ||
        Text.holds "IntrinsicAttributes".toList diagnostic.message.toList))

def categories : List (Int × String) :=
  [(1003, "syntax"), (1005, "syntax"), (1009, "syntax"), (1109, "syntax"), (1128, "syntax"),
   (1161, "syntax"), (17002, "syntax"), (2304, "reference"), (2451, "reference"),
   (2307, "module"), (2322, "type"), (2741, "type"), (7006, "type"), (7031, "type"),
   (2339, "property"), (17001, "property"), (2345, "argument"), (2554, "parameter")]

def advices : List (Int × String) :=
  [(1003, "Add the missing identifier"),
   (1005, "Check for missing brackets, parentheses, or semicolons"),
   (1109, "Complete the expression or remove the stray token"),
   (1128, "Remove the stray token or complete the statement"),
   (2304, "Import the missing identifier or check spelling"),
   (2307, "Install the missing package or check the import path"),
   (2322, "Check the type compatibility between assigned values"),
   (2339, "Verify the property exists on the object type"),
   (2345, "Check the number and types of function arguments"),
   (2451, "Rename one of the declarations"),
   (2554, "Pass the expected number of arguments"),
   (7006, "Add explicit type annotations"),
   (7031, "Add explicit return type annotation"),
   (17001, "Remove the duplicated attribute"),
   (17002, "Make the closing tag match its opening tag")]

def severityOf (category : String) : Severity :=
  if category == "error" then .error else if category == "warning" then .warning else .info

def findingSource : String := "typescript"

def Diagnostic.toFinding (diagnostic : Diagnostic) : Finding :=
  { line := diagnostic.line + 1, column := diagnostic.character + 1
    message := diagnostic.message, severity := severityOf diagnostic.category
    source := findingSource
    category := (categories.lookup diagnostic.code).getD "general"
    suggestion :=
      some ((advices.lookup diagnostic.code).getD "Check TypeScript documentation for this error")
    code := some (.number diagnostic.code) }

def failureFinding (reason : String) : Finding :=
  { line := 1, column := 1, message := "TypeScript validation failed: " ++ reason
    severity := .warning, source := findingSource, category := "system"
    suggestion := some "Check that the TypeScript backend is installed and configured" }

def findings (compiler : Compiler) (source fileName : String) : List Finding :=
  match compiler source fileName with
  | .ok diagnostics => (diagnostics.filter (!·.isEnvironmental)).map Diagnostic.toFinding
  | .error reason => [failureFinding reason]

end Compiler

end Handoff
