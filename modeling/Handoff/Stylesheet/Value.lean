import Handoff.Stylesheet.Vocabulary
import Handoff.Text.Blank
import Handoff.Text.Case
import Handoff.Text.Digit
import Handoff.Text.Lines
import Handoff.Text.Scan
import Handoff.Text.Word

/-! # The grammar of values and selectors

Colors are names, hexadecimal digits or functions; lengths are numbers with units. The grammar is
small on purpose: values that are worked out later are not looked into.
-/

namespace Handoff.Stylesheet

open Text (Recogniser)

/-- Whether nothing is left, a final newline aside. -/
def atEnd (text : List Char) : Bool := text.isEmpty || text == ['\n']

/-- Whether a recogniser takes a whole text, a final newline aside. -/
def fills (r : Recogniser) (text : List Char) : Bool := ((r text).map atEnd).getD false

/-! ## Colors -/

def isHexDigit (c : Char) : Bool := c.isDigit || ('a' ≤ c && c ≤ 'f') || ('A' ≤ c && c ≤ 'F')

/-- Whether a text is a hash and three, four, six or eight hexadecimal digits. -/
def isHexColor : List Char → Bool
  | '#' :: rest =>
    [3, 4, 6, 8].contains (rest.takeWhile isHexDigit).length && atEnd (rest.dropWhile isHexDigit)
  | _ => false

def digitsAndPoints : Recogniser := .oneOrMore fun c => Text.isDecimal c || c == '.'

/-- Takes a number that may be a percentage. -/
def share : Recogniser := .andThen digitsAndPoints (.optionally (.mark '%'))

def percentage : Recogniser := .andThen digitsAndPoints (.mark '%')

def angle : Recogniser :=
  .andThen digitsAndPoints (.optionally (.anyWord ["deg", "turn", "rad"]))

def comma : Recogniser := .sequence [.spaces, .mark ',', .spaces]

/-- Takes a color function with its name, a first part and two further ones, in the notation with
commas or in the one without. -/
def colorFunction (name : String) (first further : Recogniser) : Recogniser :=
  .sequence [.word name, .optionally (.mark 'a'), .mark '(', .spaces, first,
    .firstOf [
      .sequence [comma, further, comma, further, .spaces,
        .optionally (.sequence [.mark ',', .spaces, share, .spaces]), .mark ')'],
      .sequence [.gap, further, .gap, further, .spaces,
        .optionally (.sequence [.mark '/', .spaces, share, .spaces]), .mark ')']]]

def isColor (value : List Char) : Bool :=
  let lowered := Text.lower value
  let word := String.ofList lowered
  namedColors.contains word || globalWords.contains word || isHexColor value ||
    fills (colorFunction "rgb" share share) lowered ||
    fills (colorFunction "hsl" angle percentage) lowered

/-! ## Lengths -/

def sign : Recogniser := .optionally (.one fun c => c == '+' || c == '-')

def fraction : Recogniser := .andThen (.mark '.') (.oneOrMore Text.isDecimal)

/-- Takes a number without its sign. -/
def magnitude : Recogniser :=
  .firstOf [.andThen (.oneOrMore Text.isDecimal) (.optionally fraction), fraction]

/-- Whether a word is a number with a unit. -/
def isMeasure (word : List Char) : Bool :=
  match Recogniser.andThen sign magnitude word with
  | some unit => lengthUnits.contains (String.ofList unit)
  | none => false

def isZero (word : List Char) : Bool :=
  fills (.sequence [sign, .mark '0',
    .optionally (.andThen (.mark '.') (.oneOrMore (· == '0')))]) word

def isNumber (word : List Char) : Bool := fills (.andThen sign magnitude) word

def isLengthWord (unitless : Bool) (word : List Char) : Bool :=
  let lowered := Text.lower word
  lengthWords.contains (String.ofList lowered) || isZero word || isMeasure lowered ||
    (unitless && (isNumber word || lowered == "normal".toList))

def isLength (unitless : Bool) (value : List Char) : Bool :=
  match Text.words value with
  | [] => false
  | [word] =>
    globalWords.contains (String.ofList (Text.lower word)) || isLengthWord unitless word
  | words => words.all (isLengthWord unitless)

/-! ## Selectors and whole values -/

def isSelectorChar (c : Char) : Bool :=
  Text.isWord c || Text.isSpace c || "-#.[]:(),>+~*=\"'^$|&\\".toList.contains c

def isSelector (text : List Char) : Bool := !text.isEmpty && text.all isSelectorChar

def isDeferred (value : List Char) : Bool :=
  deferredMarks.any fun mark => Text.holds mark.toList value

def takesColor (property value : List Char) : Bool :=
  Text.holds "color".toList property ||
    (property == "background".toList && (Text.words value).length == 1 && !value.contains '(')

def takesLength (property : List Char) : Bool :=
  ["width", "height", "margin", "padding"].any fun part => Text.holds part.toList property

/-- Whether a property about a length also takes plain numbers. -/
def takesNumber (property : List Char) : Bool :=
  property == "line-height".toList || property == "stroke-width".toList

inductive ValueFault where
  | empty | color | length
deriving Repr, DecidableEq

def ValueFault.message : ValueFault → String
  | empty => "Empty value"
  | color => "Invalid color value"
  | length => "Invalid length value"

def valueFault? (property value : List Char) : Option ValueFault :=
  if value.isEmpty then some .empty
  else if "--".toList.isPrefixOf property || isDeferred value then none
  else if takesColor property value && !isColor value then some .color
  else if takesLength property && !isLength (takesNumber property) value then some .length
  else none

/-- Whether a character is the letter i, with or without its dot, in either case. -/
def isAnyI (c : Char) : Bool := c == 'i' || c == 'I' || c == 'İ' || c == 'ı'

/-- Whether a text is the word that makes a declaration important, in any case. -/
def isImportantWord : List Char → Bool
  | [] => false
  | c :: rest => isAnyI c && rest.map Char.toLower == "mportant".toList

/-- A value without the mark of importance at its end, trimmed. -/
def withoutImportance (value : List Char) : List Char :=
  let body := Text.trimEnd value
  let front := body.take (body.length - 9)
  if isImportantWord (body.drop (body.length - 9)) then
    match (Text.trimEnd front).getLast? with
    | some '!' => Text.trim (Text.trimEnd front).dropLast
    | _ => Text.trim value
  else Text.trim value

end Handoff.Stylesheet
