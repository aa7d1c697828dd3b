import Handoff.Text.Digit
import Handoff.Text.Lines

/-! # Numeric hosts

A host may be given by a number of 32 bits, as four decimal numbers with points between them, or by
one of 128 bits, as eight groups of hexadecimal digits with colons between them. There a run of zero
groups may be left out once, the last two groups may be written in decimal, and the name of a
network may follow.
-/

namespace Handoff.Address

/-- Whether a text is a decimal number below 256 without needless zeros. -/
def isOctet (text : List Char) : Bool :=
  !text.isEmpty && text.all Char.isDigit && text.length ≤ 3 &&
    (text == ['0'] || text.head? != some '0') && Text.decimalValue text ≤ 255

def isFourOctets (text : List Char) : Bool :=
  let octets := Text.pieces '.' text
  octets.length == 4 && octets.all isOctet

/-- How a text can be read as four runs of digits so far: how many single characters may still come
between two runs, and whether the present run has begun. -/
abbrev RunState := Nat × Bool

/-- The ways to read one character more. -/
def RunState.step (states : List RunState) (c : Char) : List RunState :=
  (states.flatMap fun (left, begun) =>
    (if c.isDigit then [(left, true)] else []) ++
      if begun && 0 < left then [(left - 1, false)] else []).eraseDups

/-- Whether a text looks like a number of 32 bits: four runs of digits, with any character between
two of them. -/
def looksNumeric (text : List Char) : Bool :=
  (text.foldl RunState.step [(3, false)]).contains (0, true)

def isGroup (text : List Char) : Bool :=
  !text.isEmpty && text.length ≤ 4 &&
    text.all fun c => c.isDigit || ('a' ≤ c && c ≤ 'f') || ('A' ≤ c && c ≤ 'F')

/-- How many groups there are; at the end of an address four decimal numbers stand for two. -/
def groupCount? (atEnd : Bool) : List (List Char) → Option Nat
  | [] => some 0
  | [last] =>
    if isGroup last then some 1 else if atEnd && isFourOctets last then some 2 else none
  | group :: rest => if isGroup group then (groupCount? atEnd rest).map (· + 1) else none

/-- How many groups a text holds, which may be none. -/
def groupsIn? (atEnd : Bool) (text : List Char) : Option Nat :=
  if text.isEmpty then some 0 else groupCount? atEnd (Text.pieces ':' text)

def isEightGroups (text : List Char) : Bool :=
  match Text.cutAt "::".toList text with
  | some (before, after) =>
    match groupsIn? false before, groupsIn? true after with
    | some high, some low => high + low ≤ 7
    | _, _ => false
  | none => groupsIn? true text == some 8

/-- Whether a text is a number of 128 bits, perhaps with the name of a network. -/
def isScopedNumber (text : List Char) : Bool :=
  match Text.cutAt ['%'] text with
  | some (number, network) => !network.isEmpty && !network.contains '%' && isEightGroups number
  | none => isEightGroups text

end Handoff.Address
