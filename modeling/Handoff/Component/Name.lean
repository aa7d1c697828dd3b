/-! # Names of components and classes

A component is named by capitalised words in a row; its class is named by the same words in lower
case with hyphens between them. Only ASCII letters and digits make up words.
-/

namespace Handoff.Component

/-- The words of a name, given the letters of the word so far, last first. -/
def nameWordsAfter (current : List Char) : List Char → List (List Char)
  | [] => if current.isEmpty then [] else [current.reverse]
  | c :: rest =>
    if c.isAlphanum then nameWordsAfter (c :: current) rest
    else if current.isEmpty then nameWordsAfter [] rest
    else current.reverse :: nameWordsAfter [] rest

/-- The words of a name: its runs of ASCII letters and digits. -/
def nameWords (name : List Char) : List (List Char) := nameWordsAfter [] name

def capitalize : List Char → List Char
  | [] => []
  | c :: rest => c.toUpper :: rest

def defaultName : String := "GeneratedComponent"

/-- What is put before a name that would start with a digit. -/
def digitLead : List Char := "Component".toList

def nameOf (name : List Char) : List Char :=
  match (nameWords name).flatMap capitalize with
  | [] => defaultName.toList
  | c :: rest => if c.isAlpha then c :: rest else digitLead ++ c :: rest

def nameOfString (name : String) : String := String.ofList (nameOf name.toList)

/-! ## Class names -/

/-- Puts a hyphen before each character that a rule picks by its two neighbours. -/
def hyphenateFrom (cut : Option Char → Char → Option Char → Bool) (before : Option Char) :
    List Char → List Char
  | [] => []
  | c :: rest =>
    if cut before c rest.head? then '-' :: c :: hyphenateFrom cut (some c) rest
    else c :: hyphenateFrom cut (some c) rest

/-- A capital behind a small letter or a digit starts a word. -/
def startsAfterSmall (before : Option Char) (c : Char) (_ : Option Char) : Bool :=
  c.isUpper && (before.map fun b => b.isLower || b.isDigit).getD false

/-- A capital between a capital and a small letter starts a word. -/
def startsBeforeSmall (before : Option Char) (c : Char) (next : Option Char) : Bool :=
  c.isUpper && (before.map Char.isUpper).getD false && (next.map Char.isLower).getD false

def isClassChar (c : Char) : Bool := c.isAlphanum || c == '-'

/-- Puts one hyphen in the place of each run of characters that cannot stand in a class name. -/
def joinRuns (inRun : Bool) : List Char → List Char
  | [] => []
  | c :: rest =>
    if isClassChar c then c :: joinRuns false rest
    else if inRun then joinRuns true rest
    else '-' :: joinRuns true rest

def trimHyphens (text : List Char) : List Char :=
  ((text.dropWhile (· == '-')).reverse.dropWhile (· == '-')).reverse

/-- The class of a name without letters and digits. -/
def defaultClass : List Char := "component".toList

def classOf (name : List Char) : List Char :=
  let cut := hyphenateFrom startsBeforeSmall none (hyphenateFrom startsAfterSmall none name)
  match trimHyphens (joinRuns false cut) with
  | [] => defaultClass
  | kept => kept.map Char.toLower

def classOfString (name : String) : String := String.ofList (classOf name.toList)

end Handoff.Component
