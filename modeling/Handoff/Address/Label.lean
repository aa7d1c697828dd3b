import Handoff.Address.Composed
import Handoff.Address.Direction
import Handoff.Address.Joining
import Handoff.Address.Letter
import Handoff.Address.Script

/-! # Labels

A host name is made of labels. Most characters of a label can stand anywhere in it; some can stand
only beside others. A label is in composed form, starts with no mark, and has no hyphen at its ends
nor a pair of hyphens where the sign of an encoded label would have it.
-/

namespace Handoff.Address

/-- The most characters that a label can have before it is encoded. -/
def labelLimit : Nat := 254

def isWesternArabic (c : Char) : Bool := 0x0660 ≤ c.toNat && c.toNat ≤ 0x0669

def isEasternArabic (c : Char) : Bool := 0x06F0 ≤ c.toNat && c.toNat ≤ 0x06F9

/-- Whether a character that is no letter can stand at a place of a label: what stands before it is
given with the nearest character first. -/
def fitsBetween (label before : List Char) (c : Char) (after : List Char) : Bool :=
  match c with
  | '\u200C' => followsVirama before || joinsAcross before after
  | '\u200D' => followsVirama before
  | '\u00B7' => before.head? == some 'l' && after.head? == some 'l'
  | '\u0375' => (after.head?.map isGreek).getD false
  | '\u05F3' | '\u05F4' => (before.head?.map isHebrew).getD false
  | '\u30FB' => label.any isJapanese
  | c =>
    (isWesternArabic c && !label.any isEasternArabic) ||
      (isEasternArabic c && !label.any isWesternArabic)

/-- Whether each character of a label can stand at its place, given what stands before. -/
def allFit (label before : List Char) : List Char → Bool
  | [] => true
  | c :: after =>
    (isLetter c || fitsBetween label before c after) && allFit label (c :: before) after

def hyphensFit (label : List Char) : Bool :=
  label.head? != some '-' && label.getLast? != some '-' && (label.drop 2).take 2 != ['-', '-']

def isLabel (text : List Char) : Bool :=
  !text.isEmpty && text.length ≤ labelLimit && hyphensFit text &&
    !(text.head?.map Text.isMark).getD false && allFit text [] text && isComposed text &&
    isDirected (text.map direction)

end Handoff.Address
