import Handoff.Proofs.Design.Fault
import Handoff.Proofs.Design.Visit
import Handoff.Quality.Analysis

/-! # Shapes that are counted and shapes that are drawn

The analysis of a design counts the shapes in its tree, and extraction draws those of them that have
a box. So the two differ by the shapes without one, and the analysis advises on boxes if and only if
some shape is left out of the drawing. Neither passes a node twice.
-/

namespace Handoff

variable {design value : Json} {key : Option String} {file : DesignFile} {node root : Node}

/-! ## Designs with children -/

theorem Node.children_listed (read : Node.read value = .ok node) (filled : node.children ≠ []) :
    ∃ item items, value.field "children" = .list (item :: items) := by
  have parts := Node.children_ofJson_succ read
  cases listed : value.field "children" with
  | list items =>
    cases items with
    | cons item items => exact ⟨item, items, rfl⟩
    | nil =>
      rw [childValues, listed] at parts
      exact absurd (List.forall₂_nil_left_iff.mp parts) filled
  | _ =>
    rw [childValues, listed] at parts
    exact absurd (List.forall₂_nil_left_iff.mp parts) filled

theorem ofDesign_of_root (read : Node.read design.unwrapDocument = .ok root)
    (filled : root.children ≠ []) :
    Drawing.ofDesign design = Drawing.ofShapes (Drawing.shapesBelow root) := by
  obtain ⟨item, items, listed⟩ := Node.children_listed read filled
  rw [Drawing.ofDesign, listed, read]

/-! ## Shapes with a box and without -/

theorem Shape.isSome_ofNode? (node : Node) :
    (ofNode? node).isSome = (node.kind.isShape && node.box.isSome) := by
  unfold ofNode?
  cases node.kind <;> cases node.box <;> rfl

namespace Quality.Analysis

variable {nodes : List Node}

def unboxed (nodes : List Node) : List Node := (shapes nodes).filter (·.box.isNone)

theorem mem_unboxed_iff :
    node ∈ unboxed nodes ↔ node ∈ nodes ∧ node.kind.isShape = true ∧ Shape.ofNode? node = none := by
  have drawn := Shape.isSome_ofNode? node
  rw [unboxed, shapes, List.mem_filter, List.mem_filter, and_assoc]
  refine and_congr_right fun _ => and_congr_right fun shape => ?_
  rw [shape, Bool.true_and] at drawn
  rw [← Option.isNone_iff_eq_none, ← Option.not_isSome, ← Option.not_isSome, drawn]

theorem filterMap_shapes (nodes : List Node) :
    (shapes nodes).filterMap Shape.ofNode? = nodes.filterMap Shape.ofNode? := by
  rw [shapes, List.filterMap_filter]
  refine List.filterMap_congr fun node _ => ?_
  have drawn := Shape.isSome_ofNode? node
  cases shape : node.kind.isShape with
  | true => rfl
  | false =>
    rw [shape, Bool.false_and, Option.isSome_eq_false_iff, Option.isNone_iff_eq_none] at drawn
    simp [drawn]

theorem length_drawn (nodes : List Node) :
    (nodes.filterMap Shape.ofNode?).length + (unboxed nodes).length = (shapes nodes).length := by
  have boxed : (shapes nodes).countP (fun node => (Shape.ofNode? node).isSome) =
      ((shapes nodes).filter fun node => !node.box.isNone).length := by
    rw [← List.countP_eq_length_filter]
    refine List.countP_congr fun node hm => ?_
    obtain ⟨-, shape⟩ := List.mem_filter.mp hm
    rw [Shape.isSome_ofNode?, shape, Bool.true_and, Option.not_isNone]
  rw [← filterMap_shapes, List.length_filterMap_eq_countP, boxed, Nat.add_comm]
  exact (List.length_eq_length_filter_add _).symm

theorem filterMap_walk (shape : root.kind.isShape = false) :
    root.walk.filterMap Shape.ofNode? = Drawing.shapesBelow root := by
  have drawn := Shape.isSome_ofNode? root
  rw [shape, Bool.false_and, Option.isSome_eq_false_iff, Option.isNone_iff_eq_none] at drawn
  rw [Node.walk_eq, List.filterMap_cons, drawn, Drawing.shapesBelow]

/-! ## Advice on boxes -/

def boxAdvice : String := "Some shapes have no bounding box and were left out of the markup"

theorem mem_adviceIf_iff {condition : Bool} {advice text : String} :
    text ∈ adviceIf condition advice ↔ condition = true ∧ text = advice := by
  unfold adviceIf
  cases condition <;> simp

theorem boxAdvice_mem_iff {options : Accessibility} :
    boxAdvice ∈ advice options nodes ↔ unboxed nodes ≠ [] := by
  have contrast : boxAdvice ≠ "Verify text color contrast against WCAG " ++
      options.wcagLevel.name := by
    cases options.wcagLevel <;> decide
  have said : boxAdvice ∈ advice options nodes ↔ (shapes nodes).any (·.box.isNone) = true := by
    simp only [advice, List.mem_append, mem_adviceIf_iff, contrast, and_false, or_false]
    simp [boxAdvice]
  rw [said, unboxed, ne_eq, List.filter_eq_nil_iff, List.any_eq_true]
  push Not
  rfl

end Quality.Analysis

/-! ## The analysis beside the drawing -/

open Quality Analysis

/-- An analysis counts each node of a tree once, and the shapes that it counts are those that are
drawn and those that have no box. -/
structure CountsDrawn (root : Node) (analysis : Analysis) (drawn : List Shape) : Prop where
  shapesDrawn : drawn = (shapes root.walk).filterMap Shape.ofNode?
  counted : (drawn.length : Int) = analysis.shapeCount - (unboxed root.walk).length
  advised : boxAdvice ∈ analysis.suggestions ↔ drawn.length < analysis.shapeCount
  leftOut : boxAdvice ∈ analysis.suggestions ↔
    ∃ path node, Node.Leads path root node ∧ node.kind.isShape = true ∧ Shape.ofNode? node = none
  nodes : ∃ places : List (List Nat), places.Nodup ∧
    (∀ path, path ∈ places ↔ ∃ node, Node.Leads path root node) ∧ analysis.nodeCount = places.length

theorem countsDrawn_ofNodes (options : Accessibility) (shapeless : root.kind.isShape = false) :
    CountsDrawn root (ofNodes options root.walk) (Drawing.shapesBelow root) where
  shapesDrawn := by rw [filterMap_shapes, filterMap_walk shapeless]
  counted := by
    have total := length_drawn root.walk
    rw [filterMap_walk shapeless] at total
    change _ = ((shapes root.walk).length : Int) - _
    omega
  advised := by
    have total := length_drawn root.walk
    rw [filterMap_walk shapeless] at total
    change boxAdvice ∈ advice options root.walk ↔ _ < (shapes root.walk).length
    rw [boxAdvice_mem_iff, ← List.length_pos_iff]
    omega
  leftOut := by
    change boxAdvice ∈ advice options root.walk ↔ _
    rw [boxAdvice_mem_iff]
    constructor
    · intro filled
      obtain ⟨node, hm⟩ := List.exists_mem_of_ne_nil _ filled
      obtain ⟨walked, left⟩ := mem_unboxed_iff.mp hm
      obtain ⟨path, leads⟩ := Node.mem_walk_iff.mp walked
      exact ⟨path, node, leads, left⟩
    · rintro ⟨path, node, leads, left⟩
      exact List.ne_nil_of_mem (mem_unboxed_iff.mpr ⟨Node.mem_walk_iff.mpr ⟨path, leads⟩, left⟩)
  nodes := Node.walk_places root

/-- For every design with a document that has children and is no shape itself, the analysis counts
as many shapes as are drawn and have no box together. It advises on boxes if and only if some shape
is left out of the drawing. Its nodes are those that a stack visits, and each of them is counted
once. -/
theorem analysis_counts_drawn (design : Json) (key : Option String) (config : Config)
    (read : DesignFile.read design key = .ok file) (document : file.document = some root)
    (filled : root.children ≠ []) (shapeless : root.kind.isShape = false) :
    CountsDrawn root (ofDocument config file.document) (Drawing.ofDesign design).primitives ∧
      ∀ visited, Visits Node.children [root] visited →
        ofDocument config file.document = ofNodes config.accessibility visited := by
  have parsed := ((document_of_read read root).mp document).2
  have analysis : ofDocument config file.document = ofNodes config.accessibility root.walk := by
    rw [document, ofDocument, if_neg (by simpa using filled)]
  rw [analysis, ofDesign_of_root parsed filled, Drawing.primitives_ofShapes]
  refine ⟨countsDrawn_ofNodes config.accessibility shapeless, fun visited visits => ?_⟩
  rw [Node.visits_iff.mp visits]

/-- A frame with a rectangle that has a text without a box below it. -/
def unboxedDesign : Json :=
  let box : Json := .object [("x", .int 1), ("y", .int 2), ("width", .int 3), ("height", .int 4)]
  .object [("document", .object [("type", .string "FRAME"), ("children", .list [
    .object [("type", .string "RECTANGLE"), ("absoluteBoundingBox", box),
      ("children", .list [.object [("type", .string "TEXT")]])]])])]

theorem analysis_counts_drawn_unboxed : ∃ file root,
    DesignFile.read unboxedDesign none = .ok file ∧ file.document = some root ∧ root.children ≠ [] ∧
      root.kind.isShape = false ∧ Drawing.ofDesign unboxedDesign =
        .shapes [.rectangle ⟨1, 2, 3, 4⟩] ∧
      CountsDrawn root (ofDocument {} file.document) (Drawing.ofDesign unboxedDesign).primitives ∧
      ∀ visited, Visits Node.children [root] visited →
        ofDocument {} file.document = ofNodes ({} : Config).accessibility visited := by
  refine ⟨_, _, rfl, rfl, List.cons_ne_nil _ _, rfl, rfl, ?_⟩
  exact analysis_counts_drawn unboxedDesign none {} rfl rfl (List.cons_ne_nil _ _) rfl

end Handoff
