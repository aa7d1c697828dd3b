import Handoff.Design.File
import Handoff.Drawing.Shape
import Handoff.Text.Lines

/-! # Extracting a drawing

The shapes of a design are drawn in document order on a canvas of fixed size. A design without
shapes gives a placeholder, and so does one that cannot be read.
-/

namespace Handoff

inductive Drawing where
  | shapes (drawn : List Shape)
  | empty
  | unreadable (fault : DesignError)

namespace Drawing

def openTag : String :=
  "<svg width=\"400\" height=\"300\" viewBox=\"0 0 400 300\" xmlns=\"http://www.w3.org/2000/svg\">"

def closeTag : String := "</svg>"

/-- The words on the placeholder of a design that cannot be read. -/
def errorLabel : String := "SVG Generation Error"

def wordsStyle (y size paint : String) : String :=
  Shape.assigned "x" "200" ++ Shape.assigned "y" y ++
    " text-anchor=\"middle\" font-family=\"Arial, sans-serif\"" ++
    Shape.assigned "font-size" size ++ Shape.assigned "fill" paint

def words (y size paint content : String) : String :=
  "<text" ++ wordsStyle y size paint ++ ">" ++ content ++ "</text>"

/-- A drawing with each of its elements on a line of its own. -/
def placeholder (elements : List String) : String :=
  Text.joinLines (openTag :: elements.map ("  " ++ ·) ++ [closeTag])

theorem placeholder_eq (elements : List String) :
    placeholder elements =
      openTag ++ "\n" ++ Text.joinLines (elements.map ("  " ++ ·) ++ [closeTag]) := by
  rw [placeholder, Text.joinLines, List.cons_append, String.intercalate_cons_of_ne_nil (by simp)]
  rfl

/-- The drawing that stands for a design without shapes. -/
def emptyPlaceholder : String :=
  placeholder [
    "<rect x=\"50\" y=\"50\" width=\"300\" height=\"200\" fill=\"#f0f0f0\" stroke=\"#ccc\"" ++
      " stroke-width=\"2\" rx=\"8\"/>",
    words "160" "16" "#666" "Generated from Figma"]

/-- The drawing that stands for a design that cannot be read. -/
def errorPlaceholder (message : String) : String :=
  placeholder [
    "<rect x=\"10\" y=\"10\" width=\"380\" height=\"280\" fill=\"none\" stroke=\"#ddd\"" ++
      " stroke-width=\"1\"/>",
    words "160" "14" "#999" errorLabel,
    words "180" "12" "#666" (String.ofList (Markup.escape message.toList))]

def shapesBelow (root : Node) : List Shape := (Node.walkAll root.children).filterMap Shape.ofNode?

def ofShapes : List Shape → Drawing
  | [] => .empty
  | drawn => .shapes drawn

theorem ofShapes_cons (shape : Shape) (drawn : List Shape) :
    ofShapes (shape :: drawn) = .shapes (shape :: drawn) := rfl

theorem eq_of_ofShapes {shapes drawn : List Shape} (h : ofShapes shapes = .shapes drawn) :
    drawn = shapes := by
  cases shapes with
  | nil => cases h
  | cons shape shapes => exact (Drawing.shapes.inj h).symm

/-- The drawing of a design. Only a document with a list of children is read. -/
def ofDesign (design : Json) : Drawing :=
  let document := design.unwrapDocument
  match document.field "children" with
  | .list (_ :: _) =>
    match Node.read document with
    | .ok root => ofShapes (shapesBelow root)
    | .error fault => .unreadable fault
  | _ => .empty

def render : Drawing → String
  | shapes drawn => openTag ++ String.join (drawn.map Shape.render) ++ closeTag
  | empty => emptyPlaceholder
  | unreadable fault => errorPlaceholder fault.message

def isPlaceholder (markup : String) : Bool :=
  markup == emptyPlaceholder || Text.holds errorLabel.toList markup.toList

end Drawing

end Handoff
