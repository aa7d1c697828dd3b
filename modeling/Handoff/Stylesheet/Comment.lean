/-! # Blanking comments

Comments are blanked line by line, so that columns stay where they are. Whether a comment is open is
carried from line to line. Where line comments are allowed, two slashes cut the line short, unless a
colon stands before the first of them.
-/

namespace Handoff.Stylesheet

/-- Where in the text a blanking stands. In code it knows whether two slashes may still start a line
comment; `leaving` stands between the two characters of a mark of end. -/
inductive CommentState where
  | code (armed : Bool)
  | inside
  | leaving
deriving Repr, DecidableEq

/-- Blanks the rest of a line, given the character before; also tells whether a comment is open at
the end. -/
def blankFrom (lineComments : Bool) : CommentState → Option Char → List Char → List Char × Bool
  | state, _, [] => ([], state == .inside)
  | .leaving, _, c :: rest =>
    let (text, inside) := blankFrom lineComments (.code true) (some c) rest
    (' ' :: text, inside)
  | .inside, _, c :: rest =>
    let next := if c == '*' && rest.head? == some '/' then .leaving else .inside
    let (text, inside) := blankFrom lineComments next (some c) rest
    (' ' :: text, inside)
  | .code armed, before, c :: rest =>
    if c == '/' && rest.head? == some '*' then
      let (text, inside) := blankFrom lineComments .inside (some c) rest
      (' ' :: text, inside)
    else if lineComments && armed && c == '/' && rest.head? == some '/' then
      if before == some ':' then
        let (text, inside) := blankFrom lineComments (.code false) (some c) rest
        (c :: text, inside)
      else ([], false)
    else
      let (text, inside) := blankFrom lineComments (.code armed) (some c) rest
      (c :: text, inside)

/-- A line with its comments blanked, and whether a comment is open at its end. -/
def blankComments (lineComments inside : Bool) (line : List Char) : List Char × Bool :=
  blankFrom lineComments (if inside then .inside else .code true) none line

end Handoff.Stylesheet
