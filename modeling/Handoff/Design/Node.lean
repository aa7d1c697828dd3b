import Handoff.Design.Paint

/-! # Design trees

A node has a kind, perhaps a box, paints and children. A node of a text kind also has its characters
and the style of its text. Children below a fixed depth are cut off.
-/

namespace Handoff

/-- The kinds of nodes that the library knows apart. -/
inductive NodeKind where
  | document | canvas | frame | group | section | component | componentSet | componentCopy
  | rectangle | ellipse | text | vector | line | star | regularPolygon | booleanOperation
  | other
deriving Repr, DecidableEq

namespace NodeKind

def name : NodeKind → String
  | .document => "DOCUMENT"
  | .canvas => "CANVAS"
  | .frame => "FRAME"
  | .group => "GROUP"
  | .section => "SECTION"
  | .component => "COMPONENT"
  | .componentSet => "COMPONENT_SET"
  | .componentCopy => "INSTANCE"
  | .rectangle => "RECTANGLE"
  | .ellipse => "ELLIPSE"
  | .text => "TEXT"
  | .vector => "VECTOR"
  | .line => "LINE"
  | .star => "STAR"
  | .regularPolygon => "REGULAR_POLYGON"
  | .booleanOperation => "BOOLEAN_OPERATION"
  | .other => "OTHER"

def named : List NodeKind :=
  [.document, .canvas, .frame, .group, .section, .component, .componentSet,
    .componentCopy, .rectangle,
   .ellipse, .text, .vector, .line, .star, .regularPolygon, .booleanOperation]

/-- The kind of a name, whatever the case of its letters. -/
def ofName (name : String) : NodeKind :=
  let upper := String.ofList (Text.upper name.toList)
  (named.find? (·.name == upper)).getD .other

/-- Frames and components can be exported on their own. -/
def isExportable (kind : NodeKind) : Bool := kind == .frame || kind == .component

/-- Rectangles, ellipses and texts are drawn. -/
def isShape (kind : NodeKind) : Bool := kind == .rectangle || kind == .ellipse || kind == .text

end NodeKind

structure Box where
  x : Float
  y : Float
  width : Float
  height : Float

/-- The box in an object that has all four numbers. -/
def Box.ofJson? (value : Json) : DesignResult (Option Box) :=
  if value.isObject then do
    let x ← value.numberField? "x"
    let y ← value.numberField? "y"
    let width ← value.numberField? "width"
    let height ← value.numberField? "height"
    match x, y, width, height with
    | some x, some y, some width, some height => pure (some ⟨x, y, width, height⟩)
    | _, _, _, _ => pure none
  else pure none

/-- The look of a text; each part may be missing. -/
structure TextStyle where
  family : Option String
  size : Option Float
  weight : Option Float

def TextStyle.ofJson? (value : Json) : DesignResult (Option TextStyle) :=
  if value.isObject then do
    let size ← value.numberField? "fontSize"
    let weight ← value.numberField? "fontWeight"
    pure (some ⟨(value.field "fontFamily").string?, size, weight⟩)
  else pure none

structure TextContent where
  characters : Option String
  style : Option TextStyle

/-- A node of a design with everything below it. -/
inductive Node where
  | mk (id name : String) (kind : NodeKind) (typeName : String) (box : Option Box)
      (fills strokes : List Paint) (visible : Bool) (content : Option TextContent)
      (children : List Node)

namespace Node

def id : Node → String
  | mk id .. => id

def name : Node → String
  | mk _ name .. => name

def kind : Node → NodeKind
  | mk _ _ kind .. => kind

def typeName : Node → String
  | mk _ _ _ typeName .. => typeName

def box : Node → Option Box
  | mk _ _ _ _ box .. => box

def fills : Node → List Paint
  | mk _ _ _ _ _ fills .. => fills

def strokes : Node → List Paint
  | mk _ _ _ _ _ _ strokes .. => strokes

def visible : Node → Bool
  | mk _ _ _ _ _ _ _ visible .. => visible

def content : Node → Option TextContent
  | mk _ _ _ _ _ _ _ _ content _ => content

def children : Node → List Node
  | mk _ _ _ _ _ _ _ _ _ children => children

/-- How many levels below the root are read. -/
def depthLimit : Nat := 64

/-- Everything of a node but its children, read after them. -/
def ofParts (value : Json) (children : List Node) : DesignResult Node := do
  let typeName := (value.fieldOr "type" (.string "")).display
  let kind := NodeKind.ofName typeName
  let box ← Box.ofJson? (value.field "absoluteBoundingBox")
  let fills ← Paint.listOfJson (value.field "fills")
  let strokes ← Paint.listOfJson (value.field "strokes")
  let content ←
    if kind = .text then do
      let style ← TextStyle.ofJson? (value.field "style")
      pure (some ⟨(value.field "characters").string?, style⟩)
    else pure none
  pure (mk (value.fieldOr "id" (.string "")).display (value.fieldOr "name" (.string "")).display
    kind typeName box fills strokes value.isVisible content children)

def childValues (value : Json) : List Json :=
  ((value.field "children").items?.getD []).filter (·.isObject)

/-- The node in an object, with as many levels below it as are given. -/
def ofJson : Nat → Json → DesignResult Node
  | 0, value => ofParts value []
  | levels + 1, value => do
    let children ← (childValues value).mapM (ofJson levels)
    ofParts value children

/-- The node in an object, down to the depth limit. -/
def read (value : Json) : DesignResult Node := ofJson depthLimit value

mutual

/-- A node and everything below it, each node before its children. -/
def walk : Node → List Node
  | node@(mk _ _ _ _ _ _ _ _ _ children) => node :: walkAll children
termination_by structural node => node

def walkAll : List Node → List Node
  | [] => []
  | node :: rest => node.walk ++ walkAll rest
termination_by structural nodes => nodes

end

theorem walk_eq (node : Node) : node.walk = node :: walkAll node.children := by
  cases node; rfl

theorem walkAll_eq_flatMap (nodes : List Node) : walkAll nodes = nodes.flatMap walk := by
  induction nodes with
  | nil => rfl
  | cons node rest ih => simp [walkAll, ih]

end Node

end Handoff
