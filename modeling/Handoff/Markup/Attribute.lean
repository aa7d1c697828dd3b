import Handoff.Text.Blank
import Handoff.Text.Scan
import Handoff.Text.Word

/-! # Attribute names in two dialects

Drawings use plain attribute names; components written in JSX use names of their own for some of
them. A name counts as an attribute only where it is not the tail of a longer name and an equals
sign follows.
-/

namespace Handoff.Markup

structure AttributeName where
  plain : String
  jsx : String
deriving Repr, DecidableEq

/-- The names that differ between the dialects, in the order in which they are rewritten. -/
def attributeNames : List AttributeName :=
  [⟨"class", "className"⟩,
   ⟨"stroke-width", "strokeWidth"⟩,
   ⟨"fill-rule", "fillRule"⟩,
   ⟨"clip-rule", "clipRule"⟩,
   ⟨"stroke-linecap", "strokeLinecap"⟩,
   ⟨"stroke-linejoin", "strokeLinejoin"⟩,
   ⟨"stroke-miterlimit", "strokeMiterlimit"⟩,
   ⟨"stroke-dasharray", "strokeDasharray"⟩,
   ⟨"stroke-dashoffset", "strokeDashoffset"⟩,
   ⟨"stroke-opacity", "strokeOpacity"⟩,
   ⟨"fill-opacity", "fillOpacity"⟩,
   ⟨"stop-color", "stopColor"⟩,
   ⟨"stop-opacity", "stopOpacity"⟩,
   ⟨"clip-path", "clipPath"⟩,
   ⟨"font-family", "fontFamily"⟩,
   ⟨"font-size", "fontSize"⟩,
   ⟨"font-weight", "fontWeight"⟩,
   ⟨"text-anchor", "textAnchor"⟩,
   ⟨"dominant-baseline", "dominantBaseline"⟩,
   ⟨"for", "htmlFor"⟩,
   ⟨"tabindex", "tabIndex"⟩]

/-- Whether a character continues a name, so that a name cannot start behind it. -/
def continuesName (c : Char) : Bool := Text.isWord c || c == ':' || c == '-'

def canStartName (before : Option Char) : Bool := !(before.map continuesName).getD false

/-- Whether an equals sign follows, perhaps behind spaces. -/
def isAssigned (text : List Char) : Bool :=
  (text.dropWhile Text.isSpace).head? == some '='

/-- Takes an attribute name, but not the spaces and the equals sign behind it. -/
def attributeNamed (name : List Char) : Text.Sighted := fun before text =>
  if canStartName before && name.isPrefixOf text && isAssigned (text.drop name.length) then
    some (text.drop name.length)
  else none

/-- Gives one attribute another name. -/
def rename (source target text : List Char) : List Char :=
  Text.replaceWith (attributeNamed source) (fun _ => target) text

def toJsxNames (text : List Char) : List Char :=
  attributeNames.foldl (fun text name => rename name.plain.toList name.jsx.toList text) text

def toPlainNames (text : List Char) : List Char :=
  attributeNames.foldl (fun text name => rename name.jsx.toList name.plain.toList text) text

/-- The string with all attribute names in the plain dialect. -/
def toPlain (markup : String) : String := String.ofList (toPlainNames markup.toList)

end Handoff.Markup
