import Handoff.Proofs.Drawing.Label
import Handoff.Proofs.Text.Lines

/-! # Placeholders

A placeholder is told from a drawing of shapes by the finished markup: it is the one for a design
without shapes, or the words on the one for a fault stand in it. Neither the tags of shapes nor the
references in their labels have a part in these words, so a drawing of shapes is taken for a
placeholder if and only if a label in it says them.
-/

namespace Handoff

open Markup Text

variable {c : Char} {x y front piece text : List Char} {name value : String} {design : Json}
  {drawn : List Shape}

/-! ## The words on the placeholder of a fault -/

abbrev errorWords : List Char := Drawing.errorLabel.toList

/-- A text without a part in the words: they stand behind it, if at all. -/
def Silent (front : List Char) : Prop :=
  ∀ rest, errorWords <:+: front ++ rest ↔ errorWords <:+: rest

theorem Silent.append (hx : Silent x) (hy : Silent y) : Silent (x ++ y) := fun rest => by
  rw [List.append_assoc, hx, hy]

theorem silent_of_not_mem (h : 'S' ∉ front) : Silent front := by
  intro rest
  induction front with
  | nil => rfl
  | cons c front ih =>
    obtain ⟨hc, hf⟩ := List.ne_and_not_mem_of_not_mem_cons h
    have start : ¬ errorWords <+: c :: (front ++ rest) := fun start =>
      hc (List.cons_prefix_cons.mp start).1
    rw [List.cons_append, List.infix_cons_iff, or_iff_right start, ih hf]

theorem silent_ended (free : c ∉ errorWords) (absent : ¬ errorWords <:+: front) :
    Silent (front ++ [c]) := by
  intro rest
  rw [List.append_assoc, List.singleton_append, infix_append_cons_iff free, or_iff_right absent]

theorem silent_assigned (hn : 'S' ∉ name.toList) (hv : Numeric value) :
    Silent (Shape.assigned name value).toList := by
  have absent : ¬ errorWords <:+: value.toList := fun found =>
    absurd (hv ' ' (found.subset (by decide))) (by decide)
  have opening : Silent (" " ++ name ++ "=\"").toList := by
    refine silent_of_not_mem ?_
    simp only [String.toList_append, List.mem_append, not_or]
    exact ⟨⟨by decide, hn⟩, by decide⟩
  rw [Shape.assigned, String.toList_append, String.toList_append, List.append_assoc]
  exact opening.append (silent_ended (c := '"') (by decide) absent)

/-! ## The words in a label -/

theorem prefix_escape_iff (plain : ∀ c ∈ piece, c ≠ '&' ∧ c ≠ '<' ∧ c ≠ '>') :
    piece <+: escape text ↔ piece <+: text := by
  induction text generalizing piece with
  | nil => rfl
  | cons c text ih =>
    cases piece with
    | nil => exact iff_of_true List.nil_prefix List.nil_prefix
    | cons d piece =>
      obtain ⟨⟨amp, lt, gt⟩, plain⟩ := List.forall_mem_cons.mp plain
      rw [escape, List.flatMap_cons, ← escape, List.cons_prefix_cons]
      rcases escapeChar_cases c with ⟨rfl, he⟩ | ⟨rfl, he⟩ | ⟨rfl, he⟩ | ⟨-, -, -, he⟩
      · exact iff_of_false (fun h => amp (List.cons_prefix_cons.mp (he ▸ h)).1) fun h => amp h.1
      · exact iff_of_false (fun h => amp (List.cons_prefix_cons.mp (he ▸ h)).1) fun h => lt h.1
      · exact iff_of_false (fun h => amp (List.cons_prefix_cons.mp (he ▸ h)).1) fun h => gt h.1
      · rw [he, List.singleton_append, List.cons_prefix_cons, ih plain]

/-- Escaping a text neither makes nor breaks the words. -/
theorem infix_escape_iff : errorWords <:+: escape text ↔ errorWords <:+: text := by
  induction text with
  | nil => rfl
  | cons c text ih =>
    -- no reference holds the first letter of the words
    have referred {reference : List Char} (hr : 'S' ∉ reference) (hc : c ≠ 'S') :
        errorWords <:+: reference ++ escape text ↔ errorWords <:+: c :: text := by
      have start : ¬ errorWords <+: c :: text := fun start =>
        hc (List.cons_prefix_cons.mp start).1.symm
      rw [silent_of_not_mem hr, ih, List.infix_cons_iff, or_iff_right start]
    rw [escape, List.flatMap_cons, ← escape]
    rcases escapeChar_cases c with ⟨rfl, he⟩ | ⟨rfl, he⟩ | ⟨rfl, he⟩ | ⟨-, -, -, he⟩
    · rw [he, referred (by decide) (by decide)]
    · rw [he, referred (by decide) (by decide)]
    · rw [he, referred (by decide) (by decide)]
    · have plain : ∀ c ∈ errorWords, c ≠ '&' ∧ c ≠ '<' ∧ c ≠ '>' := by decide
      have front : c :: escape text = escape (c :: text) := by
        rw [escape, escape, List.flatMap_cons, he, List.singleton_append]
      rw [he, List.singleton_append, List.infix_cons_iff, List.infix_cons_iff, ih, front,
        prefix_escape_iff plain]

/-! ## The words in a drawing of shapes -/

namespace Shape

theorem silent_attributes (shape : Shape) : Silent shape.attributes.toList := by
  have named : ∀ name ∈ ["x", "y", "width", "height", "cx", "cy", "rx", "ry"],
      'S' ∉ name.toList := by
    decide
  have painted : ∀ paint ∈ [" fill=\"#f0f0f0\" stroke=\"#ccc\" stroke-width=\"1\"",
      " fill=\"#e0e0e0\" stroke=\"#ccc\" stroke-width=\"1\"",
      " font-family=\"Arial, sans-serif\" font-size=\"14\" fill=\"#333\""], 'S' ∉ paint.toList :=
        by decide
  exact attributes_induction Silent.append
    (fun name hm x => silent_assigned (named name hm) (numeric_coordinateText x))
    (fun paint hm => silent_of_not_mem (painted paint hm)) shape

theorem silent_tag (shape : Shape) {name ending : String} (hn : 'S' ∉ name.toList)
    (he : 'S' ∉ ending.toList) : Silent ("<" ++ name ++ shape.attributes ++ ending).toList := by
  have opening : Silent ("<" ++ name).toList := by
    refine silent_of_not_mem ?_
    rw [String.toList_append, List.mem_append, not_or]
    exact ⟨by decide, hn⟩
  rw [String.toList_append, String.toList_append]
  exact (opening.append shape.silent_attributes).append (silent_of_not_mem he)

/-- The words stand in the label of a shape, or else behind the shape. -/
theorem infix_render_iff (shape : Shape) (rest : List Char) :
    errorWords <:+: shape.render.toList ++ rest ↔
      Holds errorWords shape.contents ∨ errorWords <:+: rest := by
  cases shape with
  | rectangle box =>
    rw [toList_render_rectangle, silent_tag _ (by decide) (by decide)]
    exact (or_iff_right not_holds_nil).symm
  | ellipse box =>
    rw [toList_render_ellipse, silent_tag _ (by decide) (by decide)]
    exact (or_iff_right not_holds_nil).symm
  | label box characters =>
    have closing : Silent "/text>".toList := silent_of_not_mem (by decide)
    have ending : "</".toList ++ "text".toList ++ ['>'] = '<' :: "/text>".toList := by decide
    rw [toList_render_label, List.append_assoc, List.append_assoc, silent_tag _ (by decide)
      (by decide), ending, List.cons_append, infix_append_cons_iff (by decide), closing, contents,
      holds_singleton]

end Shape

namespace Drawing

theorem infix_join_iff (drawn : List Shape) (rest : List Char) :
    errorWords <:+: (String.join (drawn.map Shape.render)).toList ++ rest ↔
      Holds errorWords (drawn.flatMap Shape.contents) ∨ errorWords <:+: rest := by
  induction drawn with
  | nil => exact (or_iff_right not_holds_nil).symm
  | cons shape drawn ih =>
    rw [List.map_cons, String.join_cons, String.toList_append, List.append_assoc,
      Shape.infix_render_iff, ih, List.flatMap_cons, holds_append, or_assoc]

/-- A drawing of shapes is taken for a placeholder if one of its labels says the words. -/
theorem isPlaceholder_shapes_iff (ne : drawn ≠ []) : isPlaceholder (shapes drawn).render = true ↔
    Holds errorWords (drawn.flatMap Shape.contents) := by
  have opening : Silent openTag.toList := silent_of_not_mem (by decide +kernel)
  have other : ((shapes drawn).render == emptyPlaceholder) = false :=
    beq_false_of_ne (render_shapes_ne_empty ne)
  rw [isPlaceholder, other, Bool.false_or, holds_iff, render, String.toList_append,
    String.toList_append, List.append_assoc, opening, infix_join_iff, or_iff_left (by decide)]

theorem isPlaceholder_empty : isPlaceholder empty.render = true := by
  rw [isPlaceholder, render, beq_self_eq_true, Bool.true_or]

theorem isPlaceholder_unreadable (fault : DesignError) :
    isPlaceholder (unreadable fault).render = true := by
  have label : errorWords <:+: (words "160" "14" "#999" errorLabel).toList := by
    rw [words, String.toList_append, String.toList_append]
    exact (List.suffix_append _ _).isInfix.trans (List.prefix_append _ _).isInfix
  have shown : errorWords <:+: (unreadable fault).render.toList := by
    rw [render, errorPlaceholder, placeholder, infix_joinLines_iff (by decide) (by decide)]
    refine ⟨"  " ++ words "160" "14" "#999" errorLabel, by simp, ?_⟩
    rw [String.toList_append]
    exact label.trans (List.suffix_append _ _).isInfix
  rw [isPlaceholder, holds_iff.mpr shown, Bool.or_true]

end Drawing

/-! ## Placeholders of designs -/

/-- No shape is drawn for a design that cannot be read, nor for one in which no value asks for a
shape. -/
theorem primitives_eq_nil_iff (design : Json) : (Drawing.ofDesign design).primitives = [] ↔
    (∃ fault, Drawing.ofDesign design = .unreadable fault) ∨
      ∀ path value shape, 1 ≤ path.length → path.length ≤ 64 →
      Reaches path design.unwrapDocument value →
        ¬ Asks value shape := by
  by_cases readable : ∀ fault, Drawing.ofDesign design ≠ .unreadable fault
  · have read : ¬ ∃ fault, Drawing.ofDesign design = .unreadable fault := by simpa using readable
    rw [or_iff_right read, primitives_ofDesign readable, List.map_eq_nil_iff,
      List.eq_nil_iff_forall_not_mem]
    constructor
    · intro none path value shape low high reached asked
      exact none (path, shape) (mem_placedShapes_iff.mpr ⟨low, high, value, reached, asked⟩)
    · rintro none ⟨path, shape⟩ hm
      obtain ⟨low, high, value, reached, asked⟩ := mem_placedShapes_iff.mp hm
      exact none path value shape low high reached asked
  · push Not at readable
    refine iff_of_true ?_ (.inl readable)
    obtain ⟨fault, unreadable⟩ := readable
    rw [unreadable]
    rfl

/-- A design is taken for one without a drawing if nothing is drawn for it, or if it says the
words. -/
theorem isPlaceholder_iff (design : Json) :
    Drawing.isPlaceholder (Drawing.ofDesign design).render = true ↔
    (Drawing.ofDesign design).primitives = [] ∨
      ∃ value, design.DrawsText value ∧ errorWords <:+: value.labelText.toList := by
  have said : Holds errorWords ((Drawing.ofDesign design).primitives.flatMap Shape.contents) ↔
      ∃ value, design.DrawsText value ∧ errorWords <:+: value.labelText.toList := by
    rw [Holds, exists_content_iff]
    exact exists_congr fun value => and_congr_right fun _ => infix_escape_iff
  rw [← said]
  cases made : Drawing.ofDesign design with
  | shapes drawn =>
    have ne : drawn ≠ [] := ne_nil_of_ofDesign made
    rw [Drawing.isPlaceholder_shapes_iff ne, Drawing.primitives, or_iff_right ne]
  | empty => exact iff_of_true Drawing.isPlaceholder_empty (.inl rfl)
  | unreadable fault => exact iff_of_true (Drawing.isPlaceholder_unreadable fault) (.inl rfl)

/-- The markup of a design is told to be a placeholder if and only if no shape is drawn. -/
def TellsPlaceholder (design : Json) : Prop :=
  Drawing.isPlaceholder (Drawing.ofDesign design).render = true ↔
    (Drawing.ofDesign design).primitives = []

/-- The markup of a design is taken for a placeholder if no shape is drawn, and besides if a text
node that is drawn says the words on the placeholder of a fault. So it is told right if and only if
none says them. -/
theorem tellsPlaceholder_iff (design : Json) :
    ((Drawing.ofDesign design).primitives = [] ↔
      (∃ fault, Drawing.ofDesign design = .unreadable fault) ∨
        ∀ path value shape, 1 ≤ path.length → path.length ≤ 64 →
          Reaches path design.unwrapDocument value → ¬ Asks value shape) ∧
    (Drawing.isPlaceholder (Drawing.ofDesign design).render = true ↔
      (Drawing.ofDesign design).primitives = [] ∨
        ∃ value, design.DrawsText value ∧ errorWords <:+: value.labelText.toList) ∧
    (TellsPlaceholder design ↔
      ∀ value, design.DrawsText value → ¬ errorWords <:+: value.labelText.toList) := by
  have taken := isPlaceholder_iff design
  refine ⟨primitives_eq_nil_iff design, taken, fun right value drawn said => ?_, fun silent => ?_⟩
  · have none := right.mp (taken.mpr (.inr ⟨value, drawn, said⟩))
    obtain ⟨content, hm, -⟩ := (exists_content_iff design fun _ => True).mpr ⟨value, drawn, trivial⟩
    rw [none] at hm
    exact List.not_mem_nil hm
  · exact taken.trans (or_iff_left fun ⟨value, drawn, said⟩ => silent value drawn said)

/-- A page with a text that says the words on the placeholder of a fault. -/
def wordyDesign : Json :=
  let box : Json := .object [("x", .int 1), ("y", .int 2), ("width", .int 3), ("height", .int 4)]
  .object [("document", .object [("type", .string "FRAME"), ("children", .list [
    .object [("type", .string "TEXT"), ("characters", .string "SVG Generation Error"),
      ("absoluteBoundingBox", box)]])])]

/-- A text is drawn, and its markup is taken for a placeholder. -/
theorem not_tellsPlaceholder_wordy : ¬ TellsPlaceholder wordyDesign := by
  have drawn :
      Drawing.ofDesign wordyDesign = .shapes [.label ⟨1, 2, 3, 4⟩ "SVG Generation Error"] := rfl
  rw [TellsPlaceholder, drawn, Drawing.isPlaceholder_shapes_iff (List.cons_ne_nil _ _)]
  intro right
  have said :
      Holds errorWords ([Shape.label ⟨1, 2, 3, 4⟩ "SVG Generation Error"].flatMap Shape.contents) :=
    ⟨errorWords, by decide, List.infix_refl _⟩
  exact List.cons_ne_nil _ _ (right.mp said)

end Handoff
