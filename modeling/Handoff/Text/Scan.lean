import Handoff.Text.Blank

/-! # Scanning a text

A recogniser takes something off the front of a text or refuses. A scan goes through a text from the
left, tries the recogniser at each place, and goes on behind what was taken.
-/

namespace Handoff.Text

/-- Takes something off the front of a text: what is left, or a refusal. -/
abbrev Recogniser := List Char → Option (List Char)

namespace Recogniser

def one (p : Char → Bool) : Recogniser
  | c :: rest => if p c then some rest else none
  | [] => none

def exactly (piece : List Char) : Recogniser := fun text =>
  if piece.isPrefixOf text then some (text.drop piece.length) else none

def word (piece : String) : Recogniser := exactly piece.toList

def many (p : Char → Bool) : Recogniser := fun text => some (text.dropWhile p)

/-- Takes as many characters of a class as there are, at least one. -/
def oneOrMore (p : Char → Bool) : Recogniser := fun text =>
  match text with
  | c :: rest => if p c then some (rest.dropWhile p) else none
  | [] => none

def mark (c : Char) : Recogniser := one (· == c)

def spaces : Recogniser := many isSpace

def gap : Recogniser := oneOrMore isSpace

def andThen (first second : Recogniser) : Recogniser := fun text => (first text).bind second

def orElse (first second : Recogniser) : Recogniser := fun text =>
  (first text).orElse fun _ => second text

def optionally (r : Recogniser) : Recogniser := fun text => (r text).orElse fun _ => some text

/-- Takes nothing, and only where the text does not go on in the given way. -/
def notBefore (p : List Char → Bool) : Recogniser := fun text => if p text then none else some text

/-- Takes all of several things, one behind the other. -/
def sequence (parts : List Recogniser) : Recogniser := parts.foldr andThen some

/-- Takes the first of several things that is there. -/
def firstOf (choices : List Recogniser) : Recogniser := fun text => choices.findSome? (· text)

/-- Takes one of several fixed texts. -/
def anyWord (choices : List String) : Recogniser := firstOf (choices.map word)

/-- How many characters are taken off the front; zero for a refusal. -/
def length (r : Recogniser) (text : List Char) : Nat :=
  match r text with
  | some left => text.length - left.length
  | none => 0

/-- Takes a text up to the last place of a piece and that piece; refuses where there is none. -/
def throughLast (piece : List Char) : Recogniser
  | [] => none
  | c :: rest =>
    (throughLast piece rest).orElse fun _ => exactly piece (c :: rest)

end Recogniser

/-- A recogniser that also looks at the character before. -/
abbrev Sighted := Option Char → Recogniser

inductive Part where
  | passed (c : Char)
  | taken (text : List Char)
deriving Repr, DecidableEq

/-- The parts of a text, given the character before and how many characters at the front already
belong to the last part. -/
def partsFrom (r : Sighted) : Option Char → Nat → List Char → List Part
  | _, _, [] => []
  | _, skip + 1, c :: rest => partsFrom r (some c) skip rest
  | before, 0, c :: rest =>
    match (r before).length (c :: rest) with
    | 0 => .passed c :: partsFrom r (some c) 0 rest
    | n + 1 => .taken ((c :: rest).take (n + 1)) :: partsFrom r (some c) n rest

def parts (r : Sighted) (text : List Char) : List Part := partsFrom r none 0 text

/-- What a sighted scan takes, in order. -/
def sightings (r : Sighted) (text : List Char) : List (List Char) :=
  (parts r text).filterMap fun
    | .taken found => some found
    | .passed _ => none

/-- What a scan takes, in order. -/
def occurrences (r : Recogniser) (text : List Char) : List (List Char) :=
  sightings (fun _ => r) text

/-- How often something occurs, counted without overlap. -/
def countOf (r : Recogniser) (text : List Char) : Nat := (occurrences r text).length

/-- How often several things occur, each counted by itself. -/
def countAll (patterns : List Recogniser) (text : List Char) : Nat :=
  (patterns.map fun r => countOf r text).foldr (· + ·) 0

/-- Puts a text in the place of everything that a scan takes. -/
def replaceWith (r : Sighted) (image : List Char → List Char) (text : List Char) : List Char :=
  (parts r text).flatMap fun
    | .taken found => image found
    | .passed c => [c]

/-- Whether something occurs at all, given the character before. -/
def occursFrom (r : Sighted) : Option Char → List Char → Bool
  | before, [] => (r before []).isSome
  | before, c :: rest => (r before (c :: rest)).isSome || occursFrom r (some c) rest

end Handoff.Text
