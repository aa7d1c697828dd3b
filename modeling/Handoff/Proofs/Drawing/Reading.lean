import Handoff.Drawing.Shape
import Mathlib.Data.List.Forall2

/-! # What shapes are read from

What is drawn for a node depends on three fields of its value: the word for its type, its box and
its characters. A box counts where it is an object with all four numbers. Neither the children of a
node nor what stands around it have a part in its shape.
-/

namespace Handoff

variable {α β : Type}

/-! ## Readings without a fault -/

theorem bind_eq_ok {x : DesignResult α} {f : α → DesignResult β} {b : β} (h : (x >>= f) = .ok b) :
    ∃ a, x = .ok a ∧ f a = .ok b := by
  cases x with
  | error fault => cases h
  | ok a => exact ⟨a, rfl, h⟩

theorem mapM_eq_ok {f : α → DesignResult β} {l : List α} {r : List β} (h : l.mapM f = .ok r) :
    List.Forall₂ (fun a b => f a = .ok b) l r := by
  induction l generalizing r with
  | nil =>
    cases h
    exact .nil
  | cons a l ih =>
    rw [List.mapM_cons] at h
    obtain ⟨b, hb, h⟩ := bind_eq_ok h
    obtain ⟨rest, hr, h⟩ := bind_eq_ok h
    cases h
    exact .cons hb (ih hr)

/-! ## Kinds -/

/-- A kind with a name is read from that name alone, whatever the case of its letters. -/
theorem NodeKind.ofName_eq_iff {kind : NodeKind} (named : kind ≠ .other) (name : String) :
    NodeKind.ofName name = kind ↔ String.ofList (Text.upper name.toList) = kind.name := by
  unfold NodeKind.ofName
  dsimp only
  generalize String.ofList (Text.upper name.toList) = word
  constructor
  · intro h
    cases found : NodeKind.named.find? (·.name == word) with
    | none =>
      rw [found] at h
      exact absurd h.symm named
    | some hit =>
      rw [found] at h
      obtain rfl : hit = kind := h
      have same := List.find?_some found
      exact (eq_of_beq same).symm
  · rintro rfl
    cases kind <;> rfl

/-! ## Boxes -/

structure IsBox (value : Json) (box : Box) : Prop where
  isObject : value.isObject = true
  x : value.numberField? "x" = .ok (some box.x)
  y : value.numberField? "y" = .ok (some box.y)
  width : value.numberField? "width" = .ok (some box.width)
  height : value.numberField? "height" = .ok (some box.height)

theorem Box.ofJson?_eq_some_iff {value : Json} {box : Box} :
    Box.ofJson? value = .ok (some box) ↔ IsBox value box := by
  constructor
  · intro h
    unfold Box.ofJson? at h
    split at h
    case isFalse => cases h
    case isTrue object =>
      obtain ⟨x, hx, h⟩ := bind_eq_ok h
      obtain ⟨y, hy, h⟩ := bind_eq_ok h
      obtain ⟨width, hw, h⟩ := bind_eq_ok h
      obtain ⟨height, hh, h⟩ := bind_eq_ok h
      split at h
      · cases h
        exact ⟨object, hx, hy, hw, hh⟩
      · cases h
  · rintro ⟨object, hx, hy, hw, hh⟩
    rw [Box.ofJson?, if_pos object, hx, hy, hw, hh]
    rfl

/-! ## Shapes -/

def Json.typeWord (value : Json) : String :=
  String.ofList (Text.upper (value.fieldOr "type" (.string "")).display.toList)

def Json.labelText (value : Json) : String :=
  ((value.field "characters").string?.filter (!·.isEmpty)).getD Shape.defaultLabel

inductive Asks (value : Json) : Shape → Prop
  | rectangle {box : Box} : value.typeWord = "RECTANGLE" →
    IsBox (value.field "absoluteBoundingBox") box → Asks value (.rectangle box)
  | ellipse {box : Box} : value.typeWord = "ELLIPSE" →
    IsBox (value.field "absoluteBoundingBox") box → Asks value (.ellipse box)
  | label {box : Box} : value.typeWord = "TEXT" →
    IsBox (value.field "absoluteBoundingBox") box → Asks value (.label box value.labelText)

def Shape.ofJson? (value : Json) : Option Shape :=
  match NodeKind.ofName (value.fieldOr "type" (.string "")).display,
    (Box.ofJson? (value.field "absoluteBoundingBox")).toOption.join with
  | .rectangle, some box => some (.rectangle box)
  | .ellipse, some box => some (.ellipse box)
  | .text, some box => some (.label box value.labelText)
  | _, _ => none

theorem Shape.ofJson?_eq_some_iff {value : Json} {shape : Shape} :
    Shape.ofJson? value = some shape ↔ Asks value shape := by
  have boxed {box : Box} :
      (Box.ofJson? (value.field "absoluteBoundingBox")).toOption.join = some box ↔
        IsBox (value.field "absoluteBoundingBox") box := by
    rw [← Box.ofJson?_eq_some_iff]
    cases Box.ofJson? (value.field "absoluteBoundingBox") <;> simp [Except.toOption]
  have named (kind : NodeKind) (h : kind ≠ .other) :
      NodeKind.ofName (value.fieldOr "type" (.string "")).display = kind ↔
        value.typeWord = kind.name :=
    NodeKind.ofName_eq_iff h _
  constructor
  · intro h
    unfold Shape.ofJson? at h
    split at h
    case h_1 kind box => cases h; exact .rectangle ((named _ (by decide)).mp kind) (boxed.mp box)
    case h_2 kind box => cases h; exact .ellipse ((named _ (by decide)).mp kind) (boxed.mp box)
    case h_3 kind box => cases h; exact .label ((named _ (by decide)).mp kind) (boxed.mp box)
    case h_4 => cases h
  · intro h
    cases h with
    | rectangle word box =>
      rw [Shape.ofJson?, boxed.mpr box, (named .rectangle (by decide)).mpr word]
    | ellipse word box =>
      rw [Shape.ofJson?, boxed.mpr box, (named .ellipse (by decide)).mpr word]
    | label word box =>
      rw [Shape.ofJson?, boxed.mpr box, (named .text (by decide)).mpr word]

/-! ## Nodes -/

namespace Node

variable {value : Json} {children : List Node} {node : Node} {levels : Nat}

theorem ofParts_eq_ok (h : ofParts value children = .ok node) :
    node.children = children ∧ Shape.ofNode? node = Shape.ofJson? value := by
  unfold ofParts at h
  obtain ⟨box, hb, h⟩ := bind_eq_ok h
  obtain ⟨fills, -, h⟩ := bind_eq_ok h
  obtain ⟨strokes, -, h⟩ := bind_eq_ok h
  -- only a node of a text kind has its characters read
  have parts : node.children = children ∧ node.box = box ∧
      node.kind = NodeKind.ofName (value.fieldOr "type" (.string "")).display ∧
      (node.kind = .text → Shape.labelOf node.content = value.labelText) := by
    dsimp only at h
    split at h
    case isTrue isText =>
      obtain ⟨style, -, h⟩ := bind_eq_ok h
      cases h
      exact ⟨rfl, rfl, rfl, fun _ => rfl⟩
    case isFalse other =>
      cases h
      exact ⟨rfl, rfl, rfl, fun isText => absurd isText other⟩
  obtain ⟨hc, rfl, hk, labelled⟩ := parts
  refine ⟨hc, ?_⟩
  unfold Shape.ofNode? Shape.ofJson?
  rw [hb, ← hk]
  dsimp only [Except.toOption, Option.join_some]
  cases hn : node.kind with
  | text =>
    cases node.box with
    | none => rfl
    | some box => exact congrArg (fun words => some (Shape.label box words)) (labelled hn)
  | _ => cases node.box <;> rfl

theorem children_of_ofParts (h : ofParts value children = .ok node) : node.children = children :=
  (ofParts_eq_ok h).1

theorem ofJson_eq_ok (h : ofJson levels value = .ok node) :
    ∃ children, ofParts value children = .ok node := by
  cases levels with
  | zero => exact ⟨[], h⟩
  | succ levels =>
    obtain ⟨children, -, h⟩ := bind_eq_ok h
    exact ⟨children, h⟩

theorem ofNode?_ofJson (h : ofJson levels value = .ok node) :
    Shape.ofNode? node = Shape.ofJson? value := by
  obtain ⟨children, h⟩ := ofJson_eq_ok h
  exact (ofParts_eq_ok h).2

theorem id_ofParts (h : ofParts value children = .ok node) :
    node.id = (value.fieldOr "id" (.string "")).display := by
  unfold ofParts at h
  obtain ⟨box, -, h⟩ := bind_eq_ok h
  obtain ⟨fills, -, h⟩ := bind_eq_ok h
  obtain ⟨strokes, -, h⟩ := bind_eq_ok h
  dsimp only at h
  split at h
  · obtain ⟨style, -, h⟩ := bind_eq_ok h
    cases h
    rfl
  · cases h
    rfl

theorem id_ofJson (h : ofJson levels value = .ok node) :
    node.id = (value.fieldOr "id" (.string "")).display := by
  obtain ⟨children, h⟩ := ofJson_eq_ok h
  exact id_ofParts h

theorem children_ofJson_zero (h : ofJson 0 value = .ok node) : node.children = [] :=
  children_of_ofParts h

theorem children_ofJson_succ (h : ofJson (levels + 1) value = .ok node) :
    List.Forall₂ (fun child node => ofJson levels child = .ok node) (childValues value)
      node.children := by
  obtain ⟨children, read, h⟩ := bind_eq_ok h
  rw [children_of_ofParts h]
  exact mapM_eq_ok read

end Node

end Handoff
