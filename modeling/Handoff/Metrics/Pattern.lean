import Handoff.Text.Lines
import Handoff.Text.Scan
import Handoff.Text.Word

/-! # Patterns in code

Metrics count how often things are written in a source. Nothing is parsed: what stands in comments
and strings counts as well.
-/

namespace Handoff.Metrics

open Text (Recogniser Sighted)

def lineRest (text : List Char) : List Char := text.takeWhile (· != '\n')

def afterLine (text : List Char) : List Char := text.dropWhile (· != '\n')

/-- Takes a word and an opening bracket, with spaces between them. -/
def call (word : String) : Recogniser := .sequence [.word word, .spaces, .mark '(']

/-- Takes a text up to the last colon of its line. -/
def throughColon : Recogniser := fun text =>
  (Recogniser.throughLast [':'] (lineRest text)).map (· ++ afterLine text)

def branches : List Recogniser :=
  [call "if",
   .sequence [.word "else", .spaces, call "if"],
   call "while",
   call "for",
   call "switch",
   .sequence [.word "case", .spaces, throughColon],
   call "catch",
   .word "&&",
   .word "||",
   .word "?"]

def blockComment : Recogniser := fun text =>
  ((Recogniser.word "/*" text).bind (Text.cutAt "*/".toList)).map Prod.snd

/-- Takes a comment, in marks or up to the end of its line. -/
def comment : Recogniser :=
  .orElse blockComment (.andThen (.word "//") (.many (· != '\n')))

/-- What reaches beyond a component. -/
def sideEffects : Recogniser :=
  .anyWord ["useEffect", "fetch", "axios", "localStorage", "sessionStorage"]

/-- What keeps a component pure. -/
def purity : Recogniser := .anyWord ["React.memo", "useMemo", "useCallback"]

def loopVariable : Recogniser :=
  .sequence [.spaces, .oneOrMore Text.isWord, .gap, .word "in", .gap]

/-- Takes the head of a loop over keys, with or without a word that declares the variable. -/
def keyLoop : Recogniser :=
  .sequence [call "for", .spaces,
    .orElse (.andThen (.anyWord ["const", "let", "var"]) loopVariable) loopVariable]

/-- What slows a component down. -/
def inefficiencies : List Recogniser :=
  [.word "document.querySelector",
   .word "getElementById",
   .word "innerHTML",
   keyLoop,
   .sequence [call "while", .spaces, .word "true", .spaces, .mark ')']]

/-- What speeds a component up. -/
def optimizations : List Recogniser :=
  [.word "React.memo",
   .word "useMemo",
   .word "useCallback",
   call "lazy",
   .word "Suspense"]

/-- What makes a component accessible. -/
def aids : List Recogniser :=
  [.andThen (.word "aria-") (.oneOrMore Char.isLower),
   .word "role=",
   .word "alt=",
   .word "tabIndex",
   .word "onKeyDown",
   .word "onKeyPress"]

/-- Takes one of some words that does not go on a longer word. -/
def freshWord (words : List String) : Sighted := fun before text =>
  if (before.map Text.isWord).getD false then none else Recogniser.anyWord words text

/-- Takes the start of a tag in which none of some attributes is written. -/
def tagWithout (start : String) (attributes : List String) : Recogniser :=
  .andThen (.word start)
    (.notBefore fun text =>
      Text.occursFrom (freshWord attributes) start.toList.getLast? (text.takeWhile (· != '>')))

/-- What keeps people out. -/
def barriers : List Recogniser :=
  [.andThen (.word "onClick")
     (.notBefore fun text => Text.holds "onKeyDown".toList (lineRest text)),
   tagWithout "<img" ["alt="],
   tagWithout "<input" ["aria-label=", "id="]]

/-- Takes a word with an ending and at least one character before it. -/
def wordEndingIn (ending : String) : Recogniser := fun text =>
  match text.takeWhile Text.isWord with
  | [] => none
  | _ :: word =>
    (Recogniser.throughLast ending.toList word).map (· ++ text.dropWhile Text.isWord)

def propsDeclaration : Recogniser :=
  .sequence [.anyWord ["interface", "type"], .gap, wordEndingIn "Props"]

def hook : Recogniser := .sequence [.word "use", .one Char.isUpper, .many Text.isWord]

end Handoff.Metrics
