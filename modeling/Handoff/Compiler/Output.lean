import Handoff.Compiler.Diagnostic
import Handoff.Number.Whole
import Handoff.Text.Lines

/-! # The output of a compiler

A compiler that is run as a program prints one diagnostic to a line, with its file, place, category,
code and message. Lines in any other form are passed over.
-/

namespace Handoff.Compiler

structure OutputLine where
  line : List Char
  column : List Char
  category : String
  code : List Char
  message : List Char
deriving Repr, DecidableEq

/-- The digits at the front of a text, at least one, and what follows them. -/
def digitRun? (text : List Char) : Option (List Char × List Char) :=
  match text.takeWhile Text.isDecimal with
  | [] => none
  | digits => some (digits, text.dropWhile Text.isDecimal)

def afterPiece? (piece : String) (text : List Char) : Option (List Char) :=
  if piece.toList.isPrefixOf text then some (text.drop piece.length) else none

def outputCategories : List String := ["error", "warning", "message"]

def category? (text : List Char) : Option (String × List Char) :=
  outputCategories.findSome? fun name => (afterPiece? name text).map (name, ·)

/-- The parts of a line behind the bracket that opens the place. -/
def placeAndMessage? (text : List Char) : Option OutputLine := do
  let (line, rest) ← digitRun? text
  let rest ← afterPiece? "," rest
  let (column, rest) ← digitRun? rest
  let rest ← afterPiece? "): " rest
  let (category, rest) ← category? rest
  let rest ← afterPiece? " TS" rest
  let (code, rest) ← digitRun? rest
  let message ← afterPiece? ": " rest
  pure ⟨line, column, category, code, message⟩

/-- The parts of a line behind the first bracket that they can follow. -/
def outputLineFrom? : List Char → Option OutputLine
  | [] => none
  | c :: rest =>
    if c == '(' then (placeAndMessage? rest).orElse fun _ => outputLineFrom? rest
    else outputLineFrom? rest

/-- The parts of a line, which starts with at least one character of a file name. -/
def outputLine? (line : List Char) : Option OutputLine := outputLineFrom? (line.drop 1)

def OutputLine.diagnostic (parts : OutputLine) : Except NumberTooLong Diagnostic := do
  let line ← wholeOfDigits parts.line
  let column ← wholeOfDigits parts.column
  let code ← wholeOfDigits parts.code
  pure { line := line - 1, character := column - 1, code
         message := String.ofList parts.message, category := parts.category }

def outputDiagnostics (output : List Char) : Except NumberTooLong (List Diagnostic) :=
  ((Text.boundaryLines output).filterMap fun line => outputLine? (Text.trim line)).mapM
    OutputLine.diagnostic

/-! ## Runs -/

inductive Run where
  /-- The program could not be started. -/
  | notStarted (reason : String)
  /-- The program was stopped when its time was up. -/
  | stopped (seconds : String)
  /-- The program ended by itself. -/
  | finished (output errors : String) (code : Int)
deriving Repr, DecidableEq

/-- What is printed without the space around it. -/
def trimmedText (text : String) : String := String.ofList (Text.trim text.toList)

/-- What a run says about a source, or why it says nothing. -/
def Run.diagnostics (executable : String) : Run → Except String (List Diagnostic)
  | notStarted reason => .error (s!"Could not start {executable}: {reason}")
  | stopped seconds => .error (s!"{executable} timed out after {seconds}s")
  | finished output errors code =>
    match outputDiagnostics output.toList with
    | .error fault => .error fault.message
    | .ok diagnostics =>
      let silent := code != 0 && diagnostics.isEmpty && !errors.isEmpty
      if !(List.contains [0, 1, 2] code) || silent then
        let reason := trimmedText errors
        .error (if reason.isEmpty then trimmedText output else reason)
      else .ok diagnostics

def options : List String :=
  ["--noEmit", "--jsx", "react-jsx", "--target", "ES2020", "--module", "ESNext",
   "--moduleResolution", "node", "--skipLibCheck", "--esModuleInterop", "--allowJs",
   "--pretty", "false"]

def baseName (path : String) : String :=
  String.ofList ((path.toList.reverse.takeWhile (· != '/')).reverse)

/-- The command line of a run on a file in the working directory. -/
def commandLine (executable fileName : String) : List String :=
  executable :: options ++ [baseName fileName]

def ofProgram (executable : String) (run : Run) : Compiler :=
  fun _ _ => run.diagnostics executable

end Handoff.Compiler
