import Handoff.Text.Blank
import Handoff.Text.Lines
import Handoff.Text.Word

/-! # The root of a drawing

Normal markup is split into the attributes of its root and what stands inside the root. An attribute
keeps its value as it is written, with its quotes or braces.
-/

namespace Handoff.Markup

/-- An attribute with its value as written. -/
structure Attribute where
  name : List Char
  value : List Char
deriving Repr, DecidableEq

structure Root where
  attributes : List Attribute
  inner : List Char
deriving Repr, DecidableEq

def startsAttribute (c : Char) : Bool := c.isAlpha || c == '_' || c == ':'

/-- Whether a character can go on an attribute name. -/
def continuesAttribute (c : Char) : Bool := Text.isWord c || c == ':' || c == '.' || c == '-'

def closingMark? (c : Char) : Option Char :=
  if c == '"' then some '"' else if c == '\'' then some '\'' else if c == '\x7b' then some '\x7d'
  else none

/-- The value at the front of a text, with its marks, and what follows it. -/
def value? : List Char → Option (List Char × List Char)
  | [] => none
  | mark :: rest =>
    match closingMark? mark with
    | none => none
    | some closing =>
      match rest.dropWhile (· != closing) with
      | [] => none
      | _ :: left => some (mark :: rest.takeWhile (· != closing) ++ [closing], left)

/-- The attribute at the front of a text and what follows it. -/
def attribute? : List Char → Option (Attribute × List Char)
  | [] => none
  | c :: rest =>
    if startsAttribute c then
      match (rest.dropWhile continuesAttribute).dropWhile Text.isSpace with
      | '=' :: left =>
        (value? (left.dropWhile Text.isSpace)).map fun (value, left) =>
          (⟨c :: rest.takeWhile continuesAttribute, value⟩, left)
      | _ => none
    else none

/-- The attributes in a text, given how many characters at its front belong to the last one. What
is no attribute is passed over. -/
def attributesFrom : Nat → List Char → List Attribute
  | _, [] => []
  | skip + 1, _ :: rest => attributesFrom skip rest
  | 0, c :: rest =>
    match attribute? (c :: rest) with
    | some (entry, left) => entry :: attributesFrom (rest.length - left.length) rest
    | none => attributesFrom 0 rest

def attributes (text : List Char) : List Attribute := attributesFrom 0 text

/-- The content of the first root tag and what follows the tag. -/
def rootTag? : List Char → Option (List Char × List Char)
  | [] => none
  | c :: rest =>
    let body := (c :: rest).drop 4
    if "<svg".toList.isPrefixOf (c :: rest) && !(body.head?.map Text.isWord).getD false then
      match body.dropWhile (· != '>') with
      | _ :: left => some (body.takeWhile (· != '>'), left)
      | [] => none
    else rootTag? rest

/-- The text without the root's closing tag, if that stands at its end. -/
def dropRootEnd (text : List Char) : List Char :=
  let body := Text.trimEnd text
  if "</svg>".toList.isSuffixOf body then body.take (body.length - 6) else text

/-- Splits normal markup into its root's attributes and what is inside. -/
def splitRoot (text : List Char) : Root :=
  match rootTag? text with
  | none => ⟨[], Text.trim text⟩
  | some (tag, rest) =>
    if tag.getLast? == some '/' then ⟨attributes tag.dropLast, []⟩
    else ⟨attributes tag, Text.trim (dropRootEnd rest)⟩

namespace Attribute

/-- The value without its quotes; a value in braces is kept. -/
def plainValue (entry : Attribute) : List Char :=
  match entry.value with
  | mark :: rest => if mark == '"' || mark == '\'' then rest.dropLast else mark :: rest
  | [] => []

def render (entry : Attribute) : List Char :=
  ' ' :: entry.name ++ '=' :: entry.value

end Attribute

def renderAttributes (attributes : List Attribute) : List Char :=
  attributes.flatMap Attribute.render

namespace Root

def value? (root : Root) (name : String) : Option (List Char) :=
  (root.attributes.find? (·.name == name.toList)).map Attribute.plainValue

def without (root : Root) (names : List String) : List Attribute :=
  root.attributes.filter fun entry => !names.contains (String.ofList entry.name)

end Root

end Handoff.Markup
