import Handoff.Report.Finding
import Handoff.Stylesheet.Comment
import Handoff.Stylesheet.Distance
import Handoff.Stylesheet.Value

/-! # Checking stylesheets

A stylesheet is read line by line with the depth of its braces, the lines of a selector that is not
yet complete, and whether a comment is open. Selectors are checked where a rule opens, declarations
wherever they stand.
-/

namespace Handoff.Stylesheet

/-- The name under which findings in stylesheets are reported. -/
def findingSource : String := "css"

/-! ## Declarations -/

/-- A declaration and where it stands: the columns of its property and of its value. -/
structure Declaration where
  property : List Char
  value : List Char
  column : Nat
  valueColumn : Nat
deriving Repr, DecidableEq

/-- The declaration in a piece of text that starts at an offset of its line. -/
def Declaration.ofPiece? (offset : Nat) (piece : List Char) : Option Declaration :=
  match Text.cutAt [':'] piece with
  | none => none
  | some (before, after) =>
    let property := Text.trim before
    if property.isEmpty then none
    else some {
      property := property
      value := withoutImportance after
      column := offset + (piece.takeWhile Text.isSpace).length + 1
      valueColumn := offset + before.length + 2 }

/-- The declarations among pieces of text, the first of which starts at an offset. -/
def declarationsOf (offset : Nat) : List (List Char) → List Declaration
  | [] => []
  | piece :: rest =>
    (Declaration.ofPiece? offset piece).toList ++ declarationsOf (offset + piece.length + 1) rest

/-- The declarations in a text that starts at an offset; a closing brace ends them. -/
def declarations (offset : Nat) (text : List Char) : List Declaration :=
  declarationsOf offset (Text.pieces ';' (text.takeWhile (· != '\x7d')))

def propertyAdvice (name : List Char) : String :=
  match similar name properties with
  | [] => "Check the property name for typos or add a vendor prefix"
  | names => "Did you mean one of: " ++ ", ".intercalate names ++ "?"

def valueAdvices : List (String × String) :=
  [("color", "Use hex (#000000), rgb(0,0,0), or named colors"),
   ("background-color", "Use hex (#000000), rgb(0,0,0), or named colors"),
   ("width", "Use length units like px, em, rem, % or auto"),
   ("height", "Use length units like px, em, rem, % or auto"),
   ("margin", "Use length units like px, em, rem, % or auto"),
   ("padding", "Use length units like px, em, rem, % or auto"),
   ("font-size", "Use length units like px, em, rem or keywords like small, medium, large"),
   ("display", "Use values like block, inline, flex, grid, none")]

def valueAdvice (name : List Char) : String :=
  (valueAdvices.lookup (String.ofList name)).getD "Check CSS specification for valid values"

def unknownProperty (line : Nat) (declaration : Declaration) : Finding :=
  { line := line, column := declaration.column
    message := "Unknown CSS property: " ++ String.ofList declaration.property
    severity := .warning, source := findingSource, category := "property"
    suggestion := some (propertyAdvice (Text.lower declaration.property)) }

def unfitValue (line : Nat) (declaration : Declaration) (fault : ValueFault) : Finding :=
  { line := line, column := declaration.valueColumn, message := fault.message
    severity := .error, source := findingSource, category := "value"
    suggestion := some (valueAdvice (Text.lower declaration.property)) }

/-- Whether a property is a variable, a nested selector or a rule rather than a property. -/
def isExempt (property : List Char) : Bool :=
  match property with
  | c :: _ => c == '$' || c == '&' || c == '@'
  | [] => false

def checkDeclaration (line : Nat) (declaration : Declaration) : List Finding :=
  if isExempt declaration.property then []
  else
    let name := Text.lower declaration.property
    (if isKnownProperty name then [] else [unknownProperty line declaration]) ++
      ((valueFault? name declaration.value).map (unfitValue line declaration)).toList

/-! ## Selectors and lines -/

def checkSelector (line : Nat) (selector : List Char) : List Finding :=
  if selector.head? == some '@' || isSelector selector then []
  else [{
    line := line, column := 1
    message :=
      if selector.isEmpty then "Missing CSS selector"
      else "Invalid CSS selector: " ++ String.ofList selector
    severity := .error, source := findingSource, category := "selector"
    suggestion := some "Check selector syntax and ensure proper nesting" }]

/-- A declaration that ends its line without a semicolon. -/
def missingSemicolon (line : Nat) (raw : List Char) : Finding :=
  { line := line, column := (Text.trimEnd raw).length, message := "Missing semicolon"
    severity := .warning, source := findingSource, category := "syntax"
    suggestion := some "Add semicolon at the end of the declaration" }

/-- What is known about the text before a line. -/
structure CheckState where
  depth : Int := 0
  selectorLines : List (List Char) := []
  inComment : Bool := false
deriving Repr, DecidableEq

inductive LineReading where
  /-- A rule opens; its selector is complete, and declarations may follow the brace. -/
  | opening (selector declarations : List Char) (offset : Nat)
  /-- Declarations inside a rule. -/
  | declarations
  /-- A statement outside of rules. -/
  | statement
  /-- A part of a selector. -/
  | selectorPart
  /-- Nothing to check. -/
  | other
deriving Repr, DecidableEq

/-- The text behind the last brace that opens, and the offset at which it starts. -/
def afterLastBrace (text : List Char) : List Char × Nat :=
  let tail := (text.reverse.takeWhile (· != '\x7b')).reverse
  (tail, text.length - tail.length)

def LineReading.of (depth : Int) (text line : List Char) : LineReading :=
  if line.contains '\x7b' then
    let (tail, offset) := afterLastBrace text
    .opening (Text.trim (text.takeWhile (· != '\x7b'))) tail offset
  else if 0 < depth && line.contains ':' then .declarations
  else if depth ≤ 0 && !line.contains '\x7d' then
    if line.getLast? == some ';' then .statement else .selectorPart
  else .other

/-- The selector of a rule from its earlier lines and the part before its brace. -/
def joinSelector (earlier : List (List Char)) (last : List Char) : List Char :=
  Text.trim (Text.joinWith [' '] (earlier ++ [last]))

def checkDeclarations (line : Nat) (raw trimmed : List Char) (offset : Nat) (text : List Char) :
    List Finding :=
  let found := declarations offset text
  let ended := trimmed.getLast? == some ';' || trimmed.getLast? == some '\x7d'
  found.flatMap (checkDeclaration line) ++
    if !found.isEmpty && !ended then [missingSemicolon line raw] else []

def depthChange (line : List Char) : Int := (line.count '\x7b' : Int) - line.count '\x7d'

/-- Checks one line: what is wrong with it, and what is known behind it. -/
def checkLine (lineComments : Bool) (state : CheckState) (number : Nat) (raw : List Char) :
    List Finding × CheckState :=
  let (text, inComment) := blankComments lineComments state.inComment raw
  let line := Text.trim text
  let depth := state.depth + depthChange line
  match LineReading.of state.depth text line with
  | .opening selector body offset =>
    let found := checkDeclarations number raw line offset body
    if state.depth ≤ 0 then
      (checkSelector number (joinSelector state.selectorLines selector) ++ found,
        { depth, selectorLines := [], inComment })
    else (found, { depth, selectorLines := state.selectorLines, inComment })
  | .declarations =>
    (checkDeclarations number raw line 0 text,
      { depth, selectorLines := state.selectorLines, inComment })
  | .statement => ([], { depth, selectorLines := [], inComment })
  | .selectorPart =>
    let selectorLines :=
      if line.isEmpty then state.selectorLines else state.selectorLines ++ [line]
    ([], { depth, selectorLines, inComment })
  | .other => ([], { depth, selectorLines := state.selectorLines, inComment })

/-- Braces that do not match, reported on the last line. -/
def unmatchedBraces (lines : Nat) : Finding :=
  { line := lines, column := 1, message := "Unmatched braces in CSS"
    severity := .error, source := findingSource, category := "syntax"
    suggestion := some "Ensure all opening braces have corresponding closing braces" }

def checkLines (lineComments : Bool) (state : CheckState) (number : Nat) :
    List (List Char) → List Finding
  | [] => if state.depth == 0 then [] else [unmatchedBraces (number - 1)]
  | raw :: rest =>
    let (found, next) := checkLine lineComments state number raw
    found ++ checkLines lineComments next (number + 1) rest

def check (lineComments : Bool) (source : List Char) : List Finding :=
  checkLines lineComments {} 1 (Text.lines source)

end Handoff.Stylesheet
