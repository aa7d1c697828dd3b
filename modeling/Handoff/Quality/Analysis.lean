import Handoff.Design.Node
import Handoff.Options.Config

/-! # Analysis of a design

What can be exported from a design, how many nodes and shapes it has, and what could be improved
before a component is made of it.
-/

namespace Handoff.Quality

/-- A node that can be exported on its own. -/
structure Exportable where
  id : String
  name : String
  kind : NodeKind
deriving Repr, DecidableEq

def Exportable.toJson (entry : Exportable) : Json :=
  .object [("id", .string entry.id), ("name", .string entry.name),
    ("type", .string entry.kind.name)]

structure Analysis where
  components : List Exportable := []
  nodeCount : Nat := 0
  shapeCount : Nat := 0
  suggestions : List String
deriving Repr, DecidableEq

namespace Analysis

def largeDesign : Nat := 200

/-- What is said of a design without nodes. -/
def empty : Analysis :=
  { suggestions := ["Provide a design with at least one frame to generate real markup"] }

def adviceIf (condition : Bool) (advice : String) : List String :=
  if condition then [advice] else []

def exportables (nodes : List Node) : List Exportable :=
  (nodes.filter (·.kind.isExportable)).map fun node => ⟨node.id, node.name, node.kind⟩

def shapes (nodes : List Node) : List Node := nodes.filter (·.kind.isShape)

def isText (node : Node) : Bool := node.kind == .text

def advice (options : Accessibility) (nodes : List Node) : List String :=
  adviceIf (exportables nodes).isEmpty
    "Wrap the design in a frame or component so it can be exported as a unit" ++
  adviceIf ((shapes nodes).any (·.box.isNone))
    "Some shapes have no bounding box and were left out of the markup" ++
  adviceIf (largeDesign < nodes.length)
    "Consider splitting the design into smaller components" ++
  adviceIf (options.colorContrast && (shapes nodes).any isText)
    ("Verify text color contrast against WCAG " ++ options.wcagLevel.name) ++
  adviceIf (!(shapes nodes).isEmpty && (shapes nodes).all isText)
    "The design contains only text; consider exporting it as markup instead of an SVG"

def ofNodes (options : Accessibility) (nodes : List Node) : Analysis :=
  { components := exportables nodes
    nodeCount := nodes.length
    shapeCount := (shapes nodes).length
    suggestions := advice options nodes }

def ofDocument (config : Config) (document : Option Node) : Analysis :=
  match document with
  | some root => if root.children.isEmpty then empty else ofNodes config.accessibility root.walk
  | none => empty

def toJson (analysis : Analysis) : Json :=
  .object [("components", .list (analysis.components.map Exportable.toJson)),
    ("nodeCount", .int analysis.nodeCount), ("shapeCount", .int analysis.shapeCount),
    ("suggestions", .list (analysis.suggestions.map .string))]

end Analysis

end Handoff.Quality
