import Handoff.Text.Blank

/-! # Lines, pieces and positions

A text is cut at a separator, or into lines at every line boundary. A position is a line and a
column, both counted from one. The offsets at which lines start are kept in a table, in which a
search by halves finds the line of an offset.
-/

namespace Handoff.Text

/-- The pieces between the occurrences of a separator; there is always one more than of these. -/
def pieces (separator : Char) : List Char → List (List Char)
  | [] => [[]]
  | c :: rest =>
    if c == separator then [] :: pieces separator rest
    else match pieces separator rest with
      | [] => [[c]]
      | piece :: more => (c :: piece) :: more

/-- The lines of a text, cut at newlines only. -/
def lines : List Char → List (List Char) := pieces '\n'

def joinWith (separator : List Char) (parts : List (List Char)) : List Char :=
  separator.intercalate parts

/-- Lines as one text, without a newline behind the last. -/
def joinLines (lines : List String) : String := "\n".intercalate lines

def isLineBoundary (c : Char) : Bool :=
  let n := c.toNat
  (0x0A ≤ n && n ≤ 0x0D) || (0x1C ≤ n && n ≤ 0x1E) || n == 0x85 || n == 0x2028 || n == 0x2029

/-- The lines of a text, cut at every line boundary, given the line so far, last character first. A
boundary at the end opens no further line. -/
def boundaryLinesAfter (current : List Char) : List Char → List (List Char)
  | [] => if current.isEmpty then [] else [current.reverse]
  | '\r' :: '\n' :: rest => current.reverse :: boundaryLinesAfter [] rest
  | c :: rest =>
    if isLineBoundary c then current.reverse :: boundaryLinesAfter [] rest
    else boundaryLinesAfter (c :: current) rest

/-- The lines of a text, cut at every line boundary. -/
def boundaryLines : List Char → List (List Char) := boundaryLinesAfter []

/-- A place in a text, both parts counted from one. -/
structure Position where
  line : Nat
  column : Nat
deriving Repr, DecidableEq

namespace Position

/-- The first place of a text. -/
def start : Position := ⟨1, 1⟩

def advance (p : Position) (c : Char) : Position :=
  if c == '\n' then ⟨p.line + 1, 1⟩ else ⟨p.line, p.column + 1⟩

/-- The place behind a text that starts at the given place. -/
def after (p : Position) (text : List Char) : Position := text.foldl advance p

theorem after_append (p : Position) (a b : List Char) : p.after (a ++ b) = (p.after a).after b :=
  List.foldl_append

end Position

/-! ## The table of lines -/

/-- The offsets behind the newlines of a text that stands at an offset. -/
def newlineEnds (offset : Nat) : List Char → List Nat
  | [] => []
  | c :: rest =>
    if c = '\n' then (offset + 1) :: newlineEnds (offset + 1) rest
    else newlineEnds (offset + 1) rest

def lineStarts (text : List Char) : List Nat := 0 :: newlineEnds 0 text

/-- How many values of an increasing table are at most a bound, searched by halves between two
indices. -/
def bisect (starts : List Nat) (bound low high : Nat) : Nat :=
  if low < high then
    let middle := (low + high) / 2
    if bound < starts.getD middle 0 then bisect starts bound low middle
    else bisect starts bound (middle + 1) high
  else low
termination_by high - low

/-- The position of an offset by the table of lines: the last line that starts there or before. -/
def locate (text : List Char) (offset : Nat) : Position :=
  let index := bisect (lineStarts text) offset 0 (lineStarts text).length - 1
  ⟨index + 1, offset - (lineStarts text).getD index 0 + 1⟩

/-! ## Cutting at a piece of text -/

/-- Where a piece of text first occurs: what stands before it and what follows it. -/
def cutAt (piece : List Char) : List Char → Option (List Char × List Char)
  | [] => if piece.isEmpty then some ([], []) else none
  | c :: rest =>
    if piece.isPrefixOf (c :: rest) then some ([], (c :: rest).drop piece.length)
    else (cutAt piece rest).map fun (before, after) => (c :: before, after)

def holds (piece text : List Char) : Bool := (cutAt piece text).isSome

def mentions (piece text : String) : Bool := holds piece.toList text.toList

def hasEnding (ending text : String) : Bool := ending.toList.isSuffixOf text.toList

theorem pieces_ne_nil (separator : Char) (text : List Char) : pieces separator text ≠ [] := by
  cases text with
  | nil => simp [pieces]
  | cons c rest =>
    unfold pieces
    split
    · simp
    · split <;> simp

end Handoff.Text
