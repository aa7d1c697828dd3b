import Handoff.Text.Blank
import Handoff.Text.Scan

/-! # Laying out markup

Markup is cut into tags and texts, and each gets a line of its own, indented by its depth. An
element that holds one text and nothing else keeps to a single line.
-/

namespace Handoff.Markup

/-- Takes a tag: an opening bracket, at least one character, and the first closing bracket. -/
def tag : Text.Recogniser
  | '<' :: c :: rest =>
    if c == '>' then none
    else match rest.dropWhile (· != '>') with
      | _ :: left => some left
      | [] => none
  | _ => none

/-- Takes a tag, or text up to the next opening bracket. -/
def tagOrText : Text.Recogniser := .orElse tag (.oneOrMore (· != '<'))

/-- The tags and texts of some markup, trimmed, without the blank ones. -/
def tokens (text : List Char) : List (List Char) :=
  ((Text.occurrences tagOrText text).map Text.trim).filter (!·.isEmpty)

def isTag (token : List Char) : Bool := token.head? == some '<'

def isClosing (token : List Char) : Bool := "</".toList.isPrefixOf token

/-- Whether a token is a tag that opens an element and leaves it open. -/
def isOpening (token : List Char) : Bool :=
  isTag token && !isClosing token && !"/>".toList.isSuffixOf token

/-- A line of laid-out markup. -/
structure Line where
  indent : Nat
  text : List Char
deriving Repr, DecidableEq

def Line.render (line : Line) : List Char := List.replicate line.indent ' ' ++ line.text

/-- How many spaces stand before a line at a depth; a width below zero is none. -/
def indentAt (indent step : Int) (depth : Nat) : Nat := (indent + depth * step).toNat

def linesFrom (indent step : Int) (depth : Nat) : List (List Char) → List Line
  | [] => []
  | token :: rest =>
    if isClosing token then
      ⟨indentAt indent step (depth - 1), token⟩ :: linesFrom indent step (depth - 1) rest
    else if isOpening token then
      match rest with
      | content :: closing :: more =>
        if !isTag content && isClosing closing then
          ⟨indentAt indent step depth, token ++ content ++ closing⟩ ::
            linesFrom indent step depth more
        else
          ⟨indentAt indent step depth, token⟩ ::
            linesFrom indent step (depth + 1) (content :: closing :: more)
      | rest => ⟨indentAt indent step depth, token⟩ :: linesFrom indent step (depth + 1) rest
    else ⟨indentAt indent step depth, token⟩ :: linesFrom indent step depth rest

/-- The lines of some markup, with a base indentation and a step for each level. -/
def layout (indent step : Int) (text : List Char) : List (List Char) :=
  (linesFrom indent step 0 (tokens text)).map Line.render

/-- How much deeper each level stands. -/
def defaultStep : Int := 2

end Handoff.Markup
