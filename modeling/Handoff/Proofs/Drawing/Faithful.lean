import Handoff.Proofs.Drawing.Order
import Handoff.Proofs.Drawing.Tags

/-! # The texts of a drawing

The contents of the text elements are read back from a drawing one after another. They are the
escaped labels of its shapes, and these are the characters of the text nodes that are drawn, in
document order.
-/

namespace Handoff

open Markup Text

variable {c : Char} {x name tail content rest : List Char} {value : Json} {path : List Nat}

/-! ## Text elements -/

/-- What stands between the tag of the text element at the front of some markup and its end, and
what follows the element. -/
def textElement? (text : List Char) : Option (List Char × List Char) :=
  if "<text".toList.isPrefixOf text then
    match text.dropWhile (· != '>') with
    | _ :: behind => cutAt "</text>".toList behind
    | [] => none
  else none

def textElement : Recogniser := fun text => (textElement? text).map Prod.snd

def textContents (markup : List Char) : List (List Char) :=
  (occurrences textElement markup).filterMap fun element => (textElement? element).map Prod.fst

theorem textContents_nil : textContents [] = [] := rfl

theorem textContents_pass (h : textElement? (c :: rest) = none) :
    textContents (c :: rest) = textContents rest := by
  rw [textContents, occurrences_cons (by rw [textElement, h]; rfl), textContents]

theorem textContents_of_not_mem (free : '<' ∉ x) (rest : List Char) :
    textContents (x ++ rest) = textContents rest := by
  induction x with
  | nil => rfl
  | cons c x ih =>
    obtain ⟨hc, hx⟩ := List.ne_and_not_mem_of_not_mem_cons free
    have refused : textElement? (c :: (x ++ rest)) = none := by
      simp [textElement?, List.isPrefixOf, hc]
    rw [List.cons_append, textContents_pass refused, ih hx]

theorem textContents_tag (hc : c ≠ 't') (free : '<' ∉ c :: x) (rest : List Char) :
    textContents ('<' :: c :: x ++ rest) = textContents rest := by
  have refused : textElement? ('<' :: c :: (x ++ rest)) = none := by
    simp [textElement?, List.isPrefixOf, hc.symm]
  rw [List.cons_append, List.cons_append, textContents_pass refused]
  exact textContents_of_not_mem free rest

theorem textElement?_append (ht : '>' ∉ tail) (hc : '<' ∉ content) (rest : List Char) :
    textElement? ("<text".toList ++ tail ++ ['>'] ++ content ++ "</text>".toList ++ rest) =
      some (content, rest) := by
  have name : '>' ∉ "<text".toList ++ tail := by
    rw [List.mem_append, not_or]
    exact ⟨by decide, ht⟩
  have split : "<text".toList ++ tail ++ ['>'] ++ content ++ "</text>".toList ++ rest =
      "<text".toList ++ tail ++ '>' :: (content ++ "</text>".toList ++ rest) := by simp
  have start : "<text".toList.isPrefixOf
      ("<text".toList ++ tail ++ '>' :: (content ++ "</text>".toList ++ rest)) = true := by
    rw [List.append_assoc]
    exact List.isPrefixOf_iff_prefix.mpr (List.prefix_append _ _)
  rw [split, textElement?, if_pos start, dropWhile_ne_append name]
  exact cutAt_append hc "/text>".toList rest

theorem textContents_append (ht : '>' ∉ tail) (hc : '<' ∉ content) (rest : List Char) :
    textContents ("<text".toList ++ tail ++ ['>'] ++ content ++ "</text>".toList ++ rest) =
      content :: textContents rest := by
  have whole := textElement?_append ht hc []
  rw [List.append_nil] at whole
  have taken := textElement?_append ht hc rest
  rw [textContents, occurrences_append (by simp) (by rw [textElement, taken]; rfl),
    List.filterMap_cons, whole]
  rfl

/-! ## The texts of shapes -/

def Shape.contents : Shape → List (List Char)
  | rectangle _ | ellipse _ => []
  | label _ characters => [escape characters.toList]

theorem Shape.textContents_render (shape : Shape) (rest : List Char) :
    textContents (shape.render.toList ++ rest) = shape.contents ++ textContents rest := by
  have free := shape.isOpenTail_attributes.free
  have opening : '<' ∉ shape.attributes.toList := fun hm => (free _ hm).1 rfl
  have closing : '>' ∉ shape.attributes.toList := fun hm => (free _ hm).2 rfl
  cases shape with
  | rectangle box =>
    have split : (rectangle box).render.toList =
        '<' :: 'r' :: ("ect".toList ++ (rectangle box).attributes.toList ++ "/>".toList) := by
      rw [toList_render_rectangle]
      simp
    rw [split]
    exact textContents_tag (by decide) (by simpa using opening) rest
  | ellipse box =>
    have split : (ellipse box).render.toList =
        '<' :: 'e' :: ("llipse".toList ++ (ellipse box).attributes.toList ++ "/>".toList) := by
      rw [toList_render_ellipse]
      simp
    rw [split]
    exact textContents_tag (by decide) (by simpa using opening) rest
  | label box characters =>
    have split : (label box characters).render.toList = "<text".toList ++
        (label box characters).attributes.toList ++ ['>'] ++ escape characters.toList ++
          "</text>".toList := by
      rw [toList_render_label]
      simp
    rw [split]
    exact textContents_append closing (fun hm => (unbracketed_escape _ _ hm).1 rfl) rest

theorem textContents_shapes (drawn : List Shape) :
    textContents (Drawing.shapes drawn).render.toList = drawn.flatMap Shape.contents := by
  have inside (rest : List Char) :
      textContents ((String.join (drawn.map Shape.render)).toList ++ rest) =
        drawn.flatMap Shape.contents ++ textContents rest := by
    induction drawn with
    | nil => simp
    | cons shape drawn ih =>
      rw [List.map_cons, String.join_cons, String.toList_append, List.append_assoc,
        shape.textContents_render, ih, List.flatMap_cons, List.append_assoc]
  have opened : Drawing.openTag.toList = '<' :: 's' :: Drawing.openTag.toList.drop 2 := by
    decide +kernel
  have closed : Drawing.closeTag.toList = '<' :: '/' :: "svg>".toList ++ [] := by decide
  calc textContents (Drawing.shapes drawn).render.toList
      = textContents ('<' :: 's' :: Drawing.openTag.toList.drop 2 ++
          ((String.join (drawn.map Shape.render)).toList ++ Drawing.closeTag.toList)) := by
        rw [← opened, ← List.append_assoc, ← String.toList_append, ← String.toList_append]
        rfl
    _ = drawn.flatMap Shape.contents ++ textContents Drawing.closeTag.toList := by
        rw [textContents_tag (by decide) (by decide +kernel), inside]
    _ = drawn.flatMap Shape.contents := by
        rw [closed, textContents_tag (by decide) (by decide), textContents_nil, List.append_nil]

/-! ## The text nodes of a design -/

def Shape.isLabel : Shape → Bool
  | label _ _ => true
  | rectangle _ | ellipse _ => false

def drawnTexts (document : Json) : List (List Nat × Json) :=
  (valuesBelow Node.depthLimit document).filter fun entry =>
    (Shape.ofJson? entry.2).any Shape.isLabel

theorem any_isLabel_iff : (Shape.ofJson? value).any Shape.isLabel = true ↔
    value.typeWord = "TEXT" ∧ ∃ box, IsBox (value.field "absoluteBoundingBox") box := by
  rw [Option.any_eq_true]
  constructor
  · rintro ⟨shape, drawn, isLabel⟩
    cases Shape.ofJson?_eq_some_iff.mp drawn with
    | rectangle => cases isLabel
    | ellipse => cases isLabel
    | label word box => exact ⟨word, _, box⟩
  · rintro ⟨word, box, boxed⟩
    exact ⟨_, Shape.ofJson?_eq_some_iff.mpr (.label word boxed), rfl⟩

theorem mem_drawnTexts_iff {document : Json} :
    (path, value) ∈ drawnTexts document ↔
      1 ≤ path.length ∧ path.length ≤ Node.depthLimit ∧ Reaches path document value ∧
        value.typeWord = "TEXT" ∧ ∃ box, IsBox (value.field "absoluteBoundingBox") box := by
  rw [drawnTexts, List.mem_filter, mem_valuesBelow_iff, any_isLabel_iff]
  simp only [and_assoc]

/-- The content is the text of a value: no bracket stands in it, and it reads as the label. -/
def IsTextOf (content : List Char) (value : Json) : Prop :=
  (∀ c ∈ content, c ≠ '<' ∧ c ≠ '>') ∧ unescape content = value.labelText.toList

theorem contents_placedShapes (document : Json) :
    ((placedShapes document).map Prod.snd).flatMap Shape.contents =
      (drawnTexts document).map fun entry => escape entry.2.labelText.toList := by
  rw [placedShapes, drawnTexts]
  induction valuesBelow Node.depthLimit document with
  | nil => rfl
  | cons entry entries ih =>
    cases hs : Shape.ofJson? entry.2 with
    | none => simpa [hs] using ih
    | some shape =>
      cases Shape.ofJson?_eq_some_iff.mp hs with
      | rectangle => simpa [hs, Shape.contents, Shape.isLabel] using ih
      | ellipse => simpa [hs, Shape.contents, Shape.isLabel] using ih
      | label => simpa [hs, Shape.contents, Shape.isLabel] using ih

theorem isTextOf_drawnTexts (document : Json) :
    List.Forall₂ (fun content entry => IsTextOf content entry.2)
      (((placedShapes document).map Prod.snd).flatMap Shape.contents) (drawnTexts document) := by
  rw [contents_placedShapes, List.forall₂_map_left_iff, List.forall₂_same]
  intro entry _
  exact ⟨unbracketed_escape _, unescape_escape _⟩

/-- Every design has a drawing, the checks of tags find nothing in it, and it is faithful to the
texts of the design. Which tags there are in a drawing of shapes depends on the kinds of the shapes
alone. What stands in its text elements are the characters of the text nodes that are drawn, or the
default label: one element for each node, in document order, with no bracket in it. -/
theorem extraction_faithful (design : Json) (checkAttributes : Bool) :
    checkTags false checkAttributes (Drawing.ofDesign design).render.toList = [] ∧
      ∀ drawn, Drawing.ofDesign design = .shapes drawn →
        (tagsOf (Drawing.ofDesign design).render.toList).map Tag.unplaced =
          Drawing.rootedTags (drawn.flatMap Shape.tags) ∧
        ∃ texts : List (List Nat × Json),
          (texts.map Prod.fst).Pairwise (List.Lex (· < ·)) ∧
          (∀ path value, (path, value) ∈ texts ↔ 1 ≤ path.length ∧ path.length ≤ 64 ∧
            Reaches path design.unwrapDocument value ∧ value.typeWord = "TEXT" ∧
              ∃ box, IsBox (value.field "absoluteBoundingBox") box) ∧
          List.Forall₂ (fun content entry => IsTextOf content entry.2)
            (textContents (Drawing.ofDesign design).render.toList) texts := by
  refine ⟨Drawing.checkTags_render _ checkAttributes, fun drawn hd => ?_⟩
  have readable : ∀ fault, Drawing.ofDesign design ≠ .unreadable fault := by
    intro fault he
    rw [hd] at he
    cases he
  have placed : drawn = (placedShapes design.unwrapDocument).map Prod.snd :=
    Drawing.eq_of_ofShapes ((ofDesign_eq design readable).symm.trans hd)
  refine ⟨?_, drawnTexts design.unwrapDocument, ?_, fun path value => mem_drawnTexts_iff, ?_⟩
  · rw [hd]
    exact (Drawing.writes_shapes drawn).bareTags_eq
  · exact List.pairwise_map.mpr ((pairwise_valuesBelow _ _).filter _)
  · rw [hd, textContents_shapes, placed]
    exact isTextOf_drawnTexts design.unwrapDocument

theorem extraction_faithful_page :
    Drawing.ofDesign pageDesign = .shapes [.label ⟨1, 2, 3, 4⟩ "a < b", .rectangle ⟨1, 2, 3, 4⟩] ∧
      (tagsOf (Drawing.ofDesign pageDesign).render.toList).map Tag.unplaced =
        Drawing.rootedTags [⟨false, "text".toList, .start, false⟩,
          ⟨true, "text".toList, .start, false⟩, ⟨false, "rect".toList, .start, true⟩] ∧
      ∃ texts : List (List Nat × Json),
        (texts.map Prod.fst).Pairwise (List.Lex (· < ·)) ∧
        (∀ path value, (path, value) ∈ texts ↔ 1 ≤ path.length ∧ path.length ≤ 64 ∧
          Reaches path pageDesign.unwrapDocument value ∧ value.typeWord = "TEXT" ∧
            ∃ box, IsBox (value.field "absoluteBoundingBox") box) ∧
        List.Forall₂ (fun content entry => IsTextOf content entry.2)
          (textContents (Drawing.ofDesign pageDesign).render.toList) texts :=
  ⟨ofDesign_pageDesign, (extraction_faithful pageDesign true).2 _ ofDesign_pageDesign⟩

end Handoff
