/-! # Punycode

A text of any characters is written in ASCII letters and digits. The ASCII characters come first; of
the others, from the least code point up, the gaps between the places where they go in are written
as numbers. The digits of a number count to 36, and each digit below its threshold is the last one
of a number. The thresholds follow the size of the gaps.
-/

namespace Handoff.Address.Punycode

def digitChar (value : Nat) : Char :=
  if value < 26 then Char.ofNat ('a'.toNat + value) else Char.ofNat ('0'.toNat + (value - 26))

def digitValue? (c : Char) : Option Nat :=
  if 'a' ≤ c && c ≤ 'z' then some (c.toNat - 'a'.toNat)
  else if 'A' ≤ c && c ≤ 'Z' then some (c.toNat - 'A'.toNat)
  else if c.isDigit then some (c.toNat - '0'.toNat + 26)
  else none

def threshold (bias place : Nat) : Nat := max 1 (min 26 (36 * (place + 1) - bias))

theorem one_le_threshold (bias place : Nat) : 1 ≤ threshold bias place := by
  unfold threshold
  omega

/-- Takes the size of a gap down to one digit, and counts what that takes into a bias. -/
def settle (bias gap : Nat) : Nat :=
  if 455 < gap then settle (bias + 36) (gap / 35) else bias + 36 * gap / (gap + 38)
termination_by gap
decreasing_by omega

/-- The bias behind a gap in a text that has the given size by then. -/
def biasAfter (isFirst : Bool) (gap size : Nat) : Nat :=
  let gap := if isFirst then gap / 700 else gap / 2
  settle 0 (gap + gap / size)

/-! ## Writing -/

/-- The digits of a number from a place on, the least significant first. -/
def writeNumber (bias place n : Nat) : List Char :=
  let least := threshold bias place
  if n < least then [digitChar n]
  else digitChar (least + (n - least) % (36 - least)) ::
    writeNumber bias (place + 1) ((n - least) / (36 - least))
termination_by n
decreasing_by
  have := one_le_threshold bias place
  exact Nat.lt_of_le_of_lt (Nat.div_le_self _ _) (by omega)

/-- The gaps before the places of one code point, given the gap so far; and the gap behind the last
place. -/
def gapsOf (code gap : Nat) : List Nat → List Nat × Nat
  | [] => ([], gap)
  | c :: rest =>
    if c < code then gapsOf code (gap + 1) rest
    else if c == code then
      let (gaps, left) := gapsOf code 0 rest
      (gap :: gaps, left)
    else gapsOf code gap rest

/-- The gaps before the places of several code points, given the least code point that counts and
the gap so far. -/
def gapsFrom (text : List Nat) (least gap : Nat) : List Nat → List Nat
  | [] => []
  | code :: rest =>
    let size := (text.filter (· < code)).length + 1
    let (gaps, left) := gapsOf code (gap + (code - least) * size) text
    gaps ++ gapsFrom text (code + 1) (left + 1) rest

/-- The numbers of gaps, given the bias and the size of the text so far. -/
def writeGaps (bias size : Nat) (isFirst : Bool) : List Nat → List Char
  | [] => []
  | gap :: rest =>
    writeNumber bias 0 gap ++ writeGaps (biasAfter isFirst gap (size + 1)) (size + 1) false rest

def isBasic (code : Nat) : Bool := code < 128

def firstBias : Nat := 72

def encode (text : List Char) : List Char :=
  let codes := text.map Char.toNat
  let basic := codes.filter isBasic
  let others := ((codes.filter (!isBasic ·)).eraseDups).mergeSort fun a b => a ≤ b
  basic.map Char.ofNat ++ (if basic.isEmpty then [] else ['-']) ++
    writeGaps firstBias basic.length true (gapsFrom codes 128 0 others)

/-! ## Reading -/

/-- The number at the front of a text, read onto a value from a place of the given weight on. -/
def readNumber? (bias place weight value : Nat) : List Char → Option (Nat × List Char)
  | [] => none
  | c :: rest =>
    match digitValue? c with
    | none => none
    | some digit =>
      let value := value + digit * weight
      let least := threshold bias place
      if digit < least then some (value, rest)
      else readNumber? bias (place + 1) (weight * (36 - least)) value rest

theorem length_lt_of_readNumber? {bias place weight value n : Nat} {text rest : List Char}
    (h : readNumber? bias place weight value text = some (n, rest)) :
    rest.length < text.length := by
  induction text generalizing place weight value with
  | nil => simp [readNumber?] at h
  | cons c tail ih =>
    simp only [readNumber?] at h
    split at h
    · simp at h
    · split at h
      · simp only [Option.some.injEq, Prod.mk.injEq] at h
        simp [h.2]
      · exact Nat.lt_succ_of_lt (ih h)

/-- Puts characters into a text, given the code point and the place that are next. -/
def fill (bias code place : Nat) (isFirst : Bool) (text numbers : List Char) :
    Option (List Char) :=
  if numbers.isEmpty then some text
  else
    match h : readNumber? bias 0 1 0 numbers with
    | none => none
    | some (gap, rest) =>
      let size := text.length + 1
      let code := code + (place + gap) / size
      let place := (place + gap) % size
      if code.isValidChar then
        fill (biasAfter isFirst gap size) code (place + 1) false
          (text.insertIdx place (Char.ofNat code)) rest
      else none
termination_by numbers.length
decreasing_by exact length_lt_of_readNumber? h

/-- The text that ASCII letters and digits stand for. The last hyphen ends the ASCII characters. -/
def decode? (text : List Char) : Option (List Char) :=
  let numbers := (text.reverse.takeWhile (· != '-')).reverse
  fill firstBias 128 0 true (text.take (text.length - numbers.length - 1)) numbers

end Handoff.Address.Punycode
