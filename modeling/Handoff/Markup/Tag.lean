import Handoff.Markup.Attribute
import Handoff.Report.Finding
import Handoff.Text.Case
import Handoff.Text.Lines
import Handoff.Text.Word

/-! # Balanced tags

The tags of a source are found by their opening brackets, in markup as well as in code that holds
markup. Opening tags wait on a stack for their closing tags; a wrong closing tag is reported once
and unwinds the stack.
-/

namespace Handoff.Markup

/-- A tag where it stands in a source. -/
structure Tag where
  closing : Bool
  name : List Char
  place : Text.Position
  selfClosing : Bool
deriving Repr, DecidableEq

/-- Whether an opening tag can stand behind a character. Behind a name or a closing bracket it would
be an argument of a type. -/
def allowsTag (c : Char) : Bool :=
  !(Text.isWord c || c == '.' || c == '$' || c == ')' || c == ']')

def continuesTagName (c : Char) : Bool := Text.isWord c || c == '.' || c == ':' || c == '-'

def tagName? : List Char → Option (List Char)
  | [] => none
  | c :: rest => if c.isAlpha then some (c :: rest.takeWhile continuesTagName) else none

/-- Whether the first closing bracket that is no arrow ends a tag of its own, given the character
before. -/
def closesItself (before : Char) : List Char → Bool
  | [] => false
  | c :: rest =>
    if c == '>' then
      if before == '=' then closesItself c rest else before == '/'
    else closesItself c rest

/-- The tag that starts at a place, and how many characters it has up to the end of its name. -/
def tagAt? (before : Option Char) (place : Text.Position) : List Char → Option (Tag × Nat)
  | '<' :: rest =>
    let opening := if (before.map allowsTag).getD true then tagName? rest else none
    match opening with
    | some name =>
      some (⟨false, name, place, closesItself '<' (rest.drop name.length)⟩, name.length + 1)
    | none =>
      match rest with
      | '/' :: rest => (tagName? rest).map fun name => (⟨true, name, place, false⟩, name.length + 2)
      | _ => none
  | _ => none

/-- The tags of a text, given the character before, the place of the text, and how many characters
at its front belong to the last tag. -/
def tagsFrom (before : Option Char) (place : Text.Position) : Nat → List Char → List Tag
  | _, [] => []
  | skip + 1, c :: rest => tagsFrom (some c) (place.advance c) skip rest
  | 0, c :: rest =>
    match tagAt? before place (c :: rest) with
    | some (tag, length) => tag :: tagsFrom (some c) (place.advance c) (length - 1) rest
    | none => tagsFrom (some c) (place.advance c) 0 rest

def tagsOf (source : List Char) : List Tag := tagsFrom none .start 0 source

def voidElements : List String :=
  ["area", "base", "br", "col", "embed", "hr", "img", "input", "link", "meta", "param", "source",
   "track", "wbr"]

/-- Whether an element has no closing tag, whatever the case of its name. -/
def isVoid (name : List Char) : Bool := voidElements.contains (String.ofList (Text.lower name))

/-- Whether a tag takes part in the balance: it closes, or it opens and waits for a closing tag.
Only plain markup has elements without a closing tag. -/
def Tag.counts (jsx : Bool) (tag : Tag) : Bool :=
  tag.closing || !(tag.selfClosing || (!jsx && isVoid tag.name))

/-! ## The stack of open tags -/

inductive TagFault where
  | unexpected (tag : Tag)
  | mismatched (tag open_ : Tag)
deriving Repr, DecidableEq

/-- The stack behind a wrong closing tag: down to the nearest open tag of its name, or else without
the topmost one. -/
def unwind (name : List Char) (stack : List Tag) : List Tag :=
  if stack.any (·.name == name) then (stack.dropWhile (·.name != name)).drop 1 else stack.drop 1

/-- Walks through tags with a stack of open ones, topmost first: what is wrong with closing tags,
and which tags stay open. -/
def balance (stack : List Tag) : List Tag → List TagFault × List Tag
  | [] => ([], stack)
  | tag :: rest =>
    if !tag.closing then balance (tag :: stack) rest
    else match stack with
      | [] =>
        let (faults, left) := balance [] rest
        (.unexpected tag :: faults, left)
      | top :: below =>
        if top.name == tag.name then balance below rest
        else
          let (faults, left) := balance (unwind tag.name (top :: below)) rest
          (.mismatched tag top :: faults, left)

/-! ## Findings -/

def findingSource (jsx : Bool) : String := if jsx then "jsx" else "markup"

def findingAt (jsx : Bool) (place : Text.Position) (message suggestion category : String) :
    Finding :=
  { line := place.line, column := place.column, message, severity := .error
    source := findingSource jsx, category, suggestion := some suggestion }

def TagFault.toFinding (jsx : Bool) : TagFault → Finding
  | unexpected tag =>
    findingAt jsx tag.place ("Unexpected closing tag: " ++ String.ofList tag.name)
      "Remove the extra closing tag or add a matching opening tag" "syntax"
  | mismatched tag top =>
    findingAt jsx tag.place
      (s!"Mismatched tags: expected {String.ofList top.name}, found {String.ofList tag.name}")
      (s!"Change to </{String.ofList top.name}> or fix the opening tag") "syntax"

def unclosedFinding (jsx : Bool) (tag : Tag) : Finding :=
  findingAt jsx tag.place ("Unclosed tag: " ++ String.ofList tag.name)
    (s!"Add closing tag </{String.ofList tag.name}>") "syntax"

def plainNameFinding (plain jsx : String) (place : Text.Position) : Finding :=
  findingAt true place (s!"Use '{jsx}' instead of '{plain}' in JSX")
    (s!"Replace '{plain}' with '{jsx}'") "attribute"

/-- The attributes with plain names in code, given the character before and the place. -/
def plainNamesFrom (before : Option Char) (place : Text.Position) : List Char → List Finding
  | [] => []
  | c :: rest =>
    let here :=
      if !canStartName before then []
      else if "class=".toList.isPrefixOf (c :: rest) then
        [plainNameFinding "class" "className" place]
      else if "for=".toList.isPrefixOf (c :: rest) then [plainNameFinding "for" "htmlFor" place]
      else []
    here ++ plainNamesFrom (some c) (place.advance c) rest

def standsBefore (a b : Finding) : Bool :=
  a.line < b.line || (a.line == b.line && a.column ≤ b.column)

/-- What is wrong with the tags of a source: wrong closing tags and plain attribute names in the
order of the source, then the tags that stay open. -/
def checkTags (jsx checkAttributes : Bool) (source : List Char) : List Finding :=
  let (faults, left) := balance [] ((tagsOf source).filter (·.counts jsx))
  let wrong := faults.map (·.toFinding jsx)
  let placed :=
    if checkAttributes && jsx then
      (wrong ++ plainNamesFrom none .start source).mergeSort standsBefore
    else wrong
  placed ++ left.reverse.map (unclosedFinding jsx)

end Handoff.Markup
