/-! # Patterns for messages

A pattern is a row of characters, some of which stand for more: a caret for the start, a dollar sign
for the end, a point for any character of a line, and a plus sign for repetition of what stands
before it.
-/

namespace Handoff.Log

inductive CharPattern where
  | any
  | literal (c : Char)
deriving Repr, DecidableEq

def CharPattern.allows : CharPattern → Char → Bool
  | any, c => c != '\n'
  | literal expected, c => c == expected

inductive PatternPart where
  | start
  | finish
  | one (char : CharPattern)
  | many (char : CharPattern)
deriving Repr, DecidableEq

abbrev Pattern := List PatternPart

namespace Pattern

def repeated : PatternPart → PatternPart
  | .one char => .many char
  | part => part

def partOf (c : Char) : PatternPart :=
  if c == '^' then .start
  else if c == '$' then .finish
  else if c == '.' then .one .any
  else .one (.literal c)

def ofText : List Char → Pattern
  | [] => []
  | c :: '+' :: rest => repeated (partOf c) :: ofText rest
  | c :: rest => partOf c :: ofText rest

/-- Whether a pattern fits a text from its front on, where the front may be the start of the
whole. -/
def fits (atStart : Bool) (pattern : Pattern) (text : List Char) : Bool :=
  match pattern, text with
  | [], _ => true
  | .start :: rest, text => atStart && fits atStart rest text
  | .finish :: rest, text => (text == [] || text == ['\n']) && fits atStart rest text
  | .one char :: rest, c :: text => char.allows c && fits false rest text
  | .many char :: rest, c :: text =>
    char.allows c && (fits false rest text || fits false (.many char :: rest) text)
  | _, [] => false
termination_by (text.length, pattern.length)

/-- Whether a pattern fits somewhere in a text, whose front may be the start of the whole. -/
def occursFrom (pattern : Pattern) (atStart : Bool) : List Char → Bool
  | [] => pattern.fits atStart []
  | c :: rest => pattern.fits atStart (c :: rest) || occursFrom pattern false rest

def occursIn (pattern : Pattern) (text : String) : Bool := occursFrom pattern true text.toList

end Pattern

end Handoff.Log
