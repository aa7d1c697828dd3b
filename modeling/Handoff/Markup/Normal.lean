import Handoff.Markup.Attribute
import Handoff.Text.Lines

/-! # The normal form of markup

Normal markup has no declarations and no comments, starts with the root of a drawing, and names its
attributes in the dialect of JSX.
-/

namespace Handoff.Markup

/-- Takes an XML declaration: it ends at the first closing bracket, which a question mark
precedes. -/
def declaration : Text.Recogniser := fun text =>
  if "<?xml".toList.isPrefixOf text then
    let body := text.drop 5
    match body.dropWhile (· != '>') with
    | _ :: rest => if (body.takeWhile (· != '>')).getLast? == some '?' then some rest else none
    | [] => none
  else none

/-- Takes a comment, which ends at the first mark of its end. -/
def comment : Text.Recogniser := fun text =>
  if "<!--".toList.isPrefixOf text then
    (Text.cutAt "-->".toList (text.drop 4)).map Prod.snd
  else none

/-- Takes out everything that a recogniser takes. -/
def without (r : Text.Recogniser) (text : List Char) : List Char :=
  Text.replaceWith (fun _ => r) (fun _ => []) text

/-- One pass over the declarations and then over the comments. -/
def stripOnce (text : List Char) : List Char := without comment (without declaration text)

/-- Takes out declarations and comments until there are none, since taking one out can bring the
parts of another together. -/
def strip (text : List Char) : List Char :=
  let next := stripOnce text
  if next.length < text.length then strip next else text
termination_by text.length

def rootStart : List Char := "<svg".toList

/-- The root that is put around markup without one. -/
def defaultOpenTag : List Char :=
  "<svg xmlns=\"http://www.w3.org/2000/svg\" viewBox=\"0 0 100 100\">".toList

def rootEnd : List Char := "</svg>".toList

/-- Puts a root around markup without one. -/
def withRoot (text : List Char) : List Char :=
  if rootStart.isPrefixOf text then text else defaultOpenTag ++ text ++ rootEnd

def normalForm (text : List Char) : List Char := toJsxNames (withRoot (Text.trim (strip text)))

def normalize (markup : String) : String := String.ofList (normalForm markup.toList)

end Handoff.Markup
