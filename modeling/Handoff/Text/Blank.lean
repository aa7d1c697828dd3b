/-! # White space

Two classes are in use. The blanks are the characters with the property `White_Space`; the spaces
are the blanks together with the four information separators. Trimming and splitting of text goes by
spaces; trimming of answers and numerals goes by blanks.
-/

namespace Handoff.Text

/-- The characters with the property `White_Space`. -/
def isBlank (c : Char) : Bool :=
  let n := c.toNat
  (9 ≤ n && n ≤ 13) || n == 0x20 || n == 0x85 || n == 0xA0 || n == 0x1680 ||
    (0x2000 ≤ n && n ≤ 0x200A) || n == 0x2028 || n == 0x2029 || n == 0x202F || n == 0x205F ||
    n == 0x3000

/-- The blanks and the four information separators. -/
def isSpace (c : Char) : Bool := isBlank c || (0x1C ≤ c.toNat && c.toNat ≤ 0x1F)

def trimBoth (p : Char → Bool) (text : List Char) : List Char :=
  ((text.dropWhile p).reverse.dropWhile p).reverse

def trimBlanks : List Char → List Char := trimBoth isBlank

/-- Drops spaces from both ends. -/
def trim : List Char → List Char := trimBoth isSpace

def trimEnd (text : List Char) : List Char := (text.reverse.dropWhile isSpace).reverse

/-- The words between spaces, given the letters of the word so far, last first. -/
def wordsAfter (current : List Char) : List Char → List (List Char)
  | [] => if current.isEmpty then [] else [current.reverse]
  | c :: rest =>
    if isSpace c then
      if current.isEmpty then wordsAfter [] rest else current.reverse :: wordsAfter [] rest
    else wordsAfter (c :: current) rest

/-- The words of a text, which are its longest runs without a space. -/
def words : List Char → List (List Char) := wordsAfter []

end Handoff.Text
