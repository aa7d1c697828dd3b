import Handoff.Design.Node
import Handoff.Markup.Escape

/-! # Shapes

A rectangle, an ellipse or a text of a design is drawn as one element of markup. The element depends
on the box and the characters of its node alone; its paint is fixed.
-/

namespace Handoff

/-- What is drawn for a node. -/
inductive Shape where
  | rectangle (box : Box)
  | ellipse (box : Box)
  | label (box : Box) (characters : String)

namespace Shape

/-- The words of a text node that has none of its own. -/
def defaultLabel : String := "Text"

def labelOf (content : Option TextContent) : String :=
  ((content.bind TextContent.characters).filter (!·.isEmpty)).getD defaultLabel

/-- What is drawn for a node: nothing without a box, and nothing for a kind that is no shape. -/
def ofNode? (node : Node) : Option Shape :=
  match node.kind, node.box with
  | .rectangle, some box => some (.rectangle box)
  | .ellipse, some box => some (.ellipse box)
  | .text, some box => some (.label box (labelOf node.content))
  | _, _ => none

/-- How far below the top of its box the baseline of a text lies. -/
def baselineOffset : Float := 16

/-- An attribute in a tag. The value is written as it is. -/
def assigned (name value : String) : String := " " ++ name ++ "=\"" ++ value ++ "\""

def coordinate (name : String) (x : Float) : String := assigned name (coordinateText x)

def rectanglePaint : String := " fill=\"#f0f0f0\" stroke=\"#ccc\" stroke-width=\"1\"/>"

def ellipsePaint : String := " fill=\"#e0e0e0\" stroke=\"#ccc\" stroke-width=\"1\"/>"

def labelFont : String := " font-family=\"Arial, sans-serif\" font-size=\"14\" fill=\"#333\">"

/-- A shape as markup. Adding zero turns a negative zero into a plain one. -/
def render : Shape → String
  | rectangle box =>
    "<rect" ++ coordinate "x" (box.x + 0) ++ coordinate "y" (box.y + 0) ++
      coordinate "width" box.width ++ coordinate "height" box.height ++ rectanglePaint
  | ellipse box =>
    "<ellipse" ++ coordinate "cx" (box.x + box.width / 2 + 0) ++
      coordinate "cy" (box.y + box.height / 2 + 0) ++
      coordinate "rx" (box.width / 2) ++ coordinate "ry" (box.height / 2) ++ ellipsePaint
  | label box characters =>
    "<text" ++ coordinate "x" (box.x + 0) ++ coordinate "y" (box.y + 0 + baselineOffset) ++
      labelFont ++ String.ofList (Markup.escape characters.toList) ++ "</text>"

end Shape

end Handoff
