import Handoff.Proofs.Design.Fault
import Handoff.Proofs.Drawing.Row

/-! # The labels in a drawing

Inside its root, every drawing is a row, whose texts are the escaped labels of its text nodes or the
words of a placeholder. Escaping leaves the signs in a label as they are, and the words of a
placeholder hold none, so the signs in a drawing are those of the text nodes that are drawn.
-/

namespace Handoff

open Markup Text

variable {a name value y size paint content : String} {sign : List Char} {design : Json}

/-! ## Shapes -/

theorem Numeric.passive {s : String} (h : Numeric s) : Passive s.toList := fun c hc =>
  isActive_of_class (by decide) (h c hc)

theorem passive_assigned (hn : Passive name.toList) (hv : Passive value.toList) :
    Passive (Shape.assigned name value).toList := by
  simp only [Shape.assigned, String.toList_append, passive_append]
  exact ⟨⟨⟨⟨by decide, hn⟩, by decide⟩, hv⟩, by decide⟩

namespace Shape

theorem passive_coordinate (hn : Passive name.toList) (x : Float) :
    Passive (coordinate name x).toList :=
  passive_assigned hn (numeric_coordinateText x).passive

theorem passive_attributes (shape : Shape) : Passive shape.attributes.toList := by
  have named : ∀ name ∈ ["x", "y", "width", "height", "cx", "cy", "rx", "ry"],
      Passive name.toList := by
    decide
  exact attributes_induction (fun hx hy => passive_append.mpr ⟨hx, hy⟩)
    (fun name hm x => passive_coordinate (named name hm) x) (by decide) shape

end Shape

theorem isElement_empty {tail : String} (hn : IsTagName name.toList)
    (other : name.toList.head? ≠ some 't')
    (ht : IsOpenTail tail.toList) (passive : Passive tail.toList) :
    IsElement ("<" ++ name ++ tail ++ "/>").toList [] := by
  have element := IsElement.empty hn other ht passive
  simpa using element

theorem isElement_text {tail : String} {content : List Char} (ht : IsOpenTail tail.toList)
    (passive : Passive tail.toList) (free : '<' ∉ content) :
    IsElement (("<" ++ "text" ++ tail ++ ">").toList ++ content ++ "</text>".toList) [content] := by
  have element := IsElement.text ht passive free
  simpa using element

theorem Shape.isElement_render (shape : Shape) : IsElement shape.render.toList shape.contents := by
  have fits := shape.isOpenTail_attributes
  have passive := shape.passive_attributes
  cases shape with
  | rectangle box =>
    rw [toList_render_rectangle]
    exact isElement_empty (by decide) (by decide) fits passive
  | ellipse box =>
    rw [toList_render_ellipse]
    exact isElement_empty (by decide) (by decide) fits passive
  | label box characters =>
    rw [toList_render_label]
    exact isElement_text fits passive fun hm => (unbracketed_escape _ _ hm).1 rfl

/-! ## Drawings -/

namespace Drawing

def contents : Drawing → List (List Char)
  | shapes drawn => drawn.flatMap Shape.contents
  | empty => ["Generated from Figma".toList]
  | unreadable fault => [errorLabel.toList, escape fault.message.toList]

theorem row_join (drawn : List Shape) :
    Row (String.join (drawn.map Shape.render)).toList (drawn.flatMap Shape.contents) := by
  induction drawn with
  | nil => exact .gap (List.forall_mem_nil _)
  | cons shape drawn ih =>
    rw [List.map_cons, String.join_cons, String.toList_append, List.flatMap_cons]
    exact shape.isElement_render.row ih

theorem isElement_words (hy : Numeric y) (hs : Numeric size) (bracketless : Unbracketed paint)
    (hp : Passive paint.toList) (free : '<' ∉ content.toList) :
    IsElement (words y size paint content).toList [content.toList] := by
  have split : (words y size paint content).toList =
      ("<" ++ "text" ++ wordsStyle y size paint ++ ">").toList ++ content.toList ++
        "</text>".toList := by
    simp [words]
  rw [split]
  refine isElement_text (isOpenTail_wordsStyle hy.unbracketed hs.unbracketed bracketless) ?_ free
  rw [wordsStyle]
  simp only [String.toList_append, passive_append]
  exact ⟨⟨⟨⟨passive_assigned (by decide) (by decide), passive_assigned (by decide) hy.passive⟩,
    by decide⟩, passive_assigned (by decide) hs.passive⟩, passive_assigned (by decide) hp⟩

theorem row_joinLines {elements : List String} {own : List (List (List Char))}
    (h : List.Forall₂ (fun element own => IsElement element.toList own) elements own) (a : String) :
    ∃ inner, (joinLines (a :: elements.map ("  " ++ ·) ++ [closeTag])).toList =
      a.toList ++ inner ++ closeTag.toList ∧ Row inner own.flatten := by
  induction h generalizing a with
  | nil =>
    refine ⟨['\n'], ?_, .gap (by decide)⟩
    simp [joinLines]
  | @cons element own elements others first _ ih =>
    obtain ⟨inner, text, row⟩ := ih (a ++ "\n" ++ ("  " ++ element))
    refine ⟨"\n  ".toList ++ element.toList ++ inner, ?_, .element (by decide) first row⟩
    rw [List.map_cons, List.cons_append, List.cons_append, joinLines_cons_cons,
      ← List.cons_append, text]
    simp

theorem row (drawing : Drawing) : ∃ inner,
    drawing.render.toList = openTag.toList ++ inner ++ closeTag.toList ∧
    Row inner drawing.contents := by
  cases drawing with
  | shapes drawn =>
    refine ⟨_, ?_, row_join drawn⟩
    rw [render, String.toList_append, String.toList_append]
  | empty =>
    have frame :=
      isElement_empty (by decide : IsTagName "rect".toList) (by decide) isOpenTail_emptyFrame
      (by decide +kernel)
    have words := isElement_words (by decide : Numeric "160") (by decide : Numeric "16")
      (by decide : Unbracketed "#666") (by decide) (by decide : '<' ∉ "Generated from Figma".toList)
    rw [render, emptyPlaceholder_eq]
    exact row_joinLines (.cons frame (.cons words .nil)) openTag
  | unreadable fault =>
    have frame :=
      isElement_empty (by decide : IsTagName "rect".toList) (by decide) isOpenTail_errorFrame
      (by decide +kernel)
    have label := isElement_words (by decide : Numeric "160") (by decide : Numeric "14")
      (by decide : Unbracketed "#999") (by decide) (by decide : '<' ∉ errorLabel.toList)
    have words := isElement_words (by decide : Numeric "180") (by decide : Numeric "12")
      (by decide : Unbracketed "#666") (by decide) (unbracketed_message fault.message)
    rw [String.toList_ofList] at words
    rw [render, errorPlaceholder_eq]
    exact row_joinLines (.cons frame (.cons label (.cons words .nil))) openTag

/-! ## Signs in a drawing -/

theorem not_holds_of_passive (hs : IsSign sign) {texts : List (List Char)}
    (h : ∀ text ∈ texts, Passive text) :
    ¬ Holds sign texts := by
  rintro ⟨text, hm, found⟩
  exact hs.not_infix (h text hm) found

theorem passive_message {fault : DesignError} (h : fault.IsOfReading) :
    Passive fault.message.toList := by
  cases fault with
  | integerTooLarge => decide
  | notIterable kind =>
    have kinds : Passive kind.toList := by
      simp only [DesignError.IsOfReading, List.mem_cons, List.not_mem_nil, or_false] at h
      rcases h with rfl | rfl | rfl <;> decide
    rw [DesignError.message, String.toList_append, String.toList_append, passive_append,
      passive_append]
    exact ⟨⟨by decide, kinds⟩, by decide⟩
  | infiniteChannel => exact h.elim
  | undefinedChannel => exact h.elim

theorem not_holds_unreadable (hs : IsSign sign) {fault : DesignError}
    (h : ofDesign design = .unreadable fault) : ¬ Holds sign (unreadable fault).contents := by
  have ofReading : fault.IsOfReading := by
    unfold ofDesign at h
    dsimp only at h
    split at h
    · split at h
      · rename_i root _
        cases drawn : shapesBelow root with
        | nil => rw [drawn] at h; cases h
        | cons shape shapes => rw [drawn] at h; cases h
      · rename_i failed
        cases h
        exact (reads_design _).fault _ failed
    · cases h
  refine not_holds_of_passive hs (List.forall_mem_cons.mpr
    ⟨by decide, List.forall_mem_singleton.mpr ?_⟩)
  exact (passive_message ofReading).escape

end Drawing

structure Json.DrawsText (design value : Json) : Prop where
  readable : ∀ fault, Drawing.ofDesign design ≠ .unreadable fault
  reached : ∃ path, 1 ≤ path.length ∧ path.length ≤ 64 ∧ Reaches path design.unwrapDocument value
  isText : value.typeWord = "TEXT"
  boxed : ∃ box, IsBox (value.field "absoluteBoundingBox") box

theorem drawsText_iff (readable : ∀ fault, Drawing.ofDesign design ≠ .unreadable fault)
    {value : Json} :
    design.DrawsText value ↔ ∃ path, (path, value) ∈ drawnTexts design.unwrapDocument := by
  constructor
  · rintro ⟨-, ⟨path, low, high, reached⟩, isText, boxed⟩
    exact ⟨path, mem_drawnTexts_iff.mpr ⟨low, high, reached, isText, boxed⟩⟩
  · rintro ⟨path, hm⟩
    obtain ⟨low, high, reached, isText, boxed⟩ := mem_drawnTexts_iff.mp hm
    exact ⟨readable, ⟨path, low, high, reached⟩, isText, boxed⟩

/-- The contents of the shapes of a design are the escaped labels of the text nodes that are
drawn. -/
theorem exists_content_iff (design : Json) (P : List Char → Prop) :
    (∃ content ∈ (Drawing.ofDesign design).primitives.flatMap Shape.contents, P content) ↔
      ∃ value, design.DrawsText value ∧ P (escape value.labelText.toList) := by
  by_cases readable : ∀ fault, Drawing.ofDesign design ≠ .unreadable fault
  · rw [primitives_ofDesign readable, contents_placedShapes]
    constructor
    · rintro ⟨content, hm, found⟩
      obtain ⟨⟨path, value⟩, listed, rfl⟩ := List.mem_map.mp hm
      exact ⟨value, (drawsText_iff readable).mpr ⟨path, listed⟩, found⟩
    · rintro ⟨value, drawn, found⟩
      obtain ⟨path, hm⟩ := (drawsText_iff readable).mp drawn
      exact ⟨_, List.mem_map.mpr ⟨(path, value), hm, rfl⟩, found⟩
  · push Not at readable
    obtain ⟨fault, unreadable⟩ := readable
    rw [unreadable]
    refine iff_of_false (fun ⟨_, hm, _⟩ => List.not_mem_nil hm) ?_
    rintro ⟨value, drawn, -⟩
    exact drawn.readable fault unreadable

/-- The signs in a drawing are those in the labels of the text nodes that are drawn. -/
theorem holds_contents_iff (hs : IsSign sign) (design : Json) :
    Holds sign (Drawing.ofDesign design).contents ↔
      ∃ value, design.DrawsText value ∧ sign <:+: value.labelText.toList := by
  have drawn : Holds sign (Drawing.ofDesign design).contents ↔
      Holds sign ((Drawing.ofDesign design).primitives.flatMap Shape.contents) := by
    cases made : Drawing.ofDesign design with
    | shapes drawn => rfl
    | empty => exact iff_of_false (Drawing.not_holds_of_passive hs (by decide)) not_holds_nil
    | unreadable fault => exact iff_of_false (Drawing.not_holds_unreadable hs made) not_holds_nil
  rw [drawn, Holds, exists_content_iff]
  exact exists_congr fun value => and_congr_right fun _ => ((alike_escape _).infix_iff hs).symm

end Handoff
