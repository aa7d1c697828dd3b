import Handoff.Drawing.Extraction
import Handoff.Proofs.Markup.Escape
import Handoff.Proofs.Markup.Tree

/-! # The tags of a drawing

Coordinates and escaped texts hold no brackets, so the tags in a drawing are those of its shapes,
and which tags a shape has depends on its kind alone. The tags of each shape are balanced, and so
are those of the drawings that stand for a design without shapes or with a fault.
-/

namespace Handoff

open Markup Text

variable {x y gap name tail content : List Char} {s t : List Tag}

/-! ## Written tags -/

/-- A text that holds some tags wherever a tag can open, and behind which a tag can open. -/
structure Writes (text : List Char) (tags : List Tag) : Prop where
  ne_nil : text ≠ []
  shown : Shown bareTags text tags
  opens : Opens text.getLast?

theorem opens_append (h : Opens y.getLast?) (ne : y ≠ []) : Opens (x ++ y).getLast? := by
  rwa [List.getLast?_append_of_ne_nil _ ne]

theorem Writes.append (hx : Writes x s) (hy : Writes y t) : Writes (x ++ y) (s ++ t) where
  ne_nil := by simp [hx.ne_nil]
  shown := hx.shown.append hy.shown hx.ne_nil hx.opens
  opens := opens_append hy.opens hy.ne_nil

theorem writes_opening (hn : IsTagName name) (ht : IsTagTail tail) :
    Writes ('<' :: name ++ tail ++ ['>']) [openingTag name tail] where
  ne_nil := by simp
  shown := shown_opening hn ht
  opens := opens_append (by decide) (List.cons_ne_nil _ _)

theorem writes_open {name tail : String} (hn : IsTagName name.toList)
    (ht : IsOpenTail tail.toList) :
    Writes ("<" ++ name ++ tail ++ ">").toList [⟨false, name.toList, .start, false⟩] := by
  have waits : (tail.toList.getLast? == some '/') = false := beq_false_of_ne ht.waits
  have written := writes_opening hn ht.toIsTagTail
  rw [openingTag, waits] at written
  simpa using written

theorem writes_empty {name tail : String} (hn : IsTagName name.toList)
    (ht : IsOpenTail tail.toList) :
    Writes ("<" ++ name ++ tail ++ "/>").toList [⟨false, name.toList, .start, true⟩] := by
  have slash : IsTagTail ['/'] := by decide
  have written := writes_opening hn (ht.toIsTagTail.append slash)
  rw [openingTag, List.getLast?_append] at written
  simpa using written

theorem writes_gap (free : '<' ∉ gap) (ne : gap ≠ []) (opens : Opens gap.getLast?) :
    Writes gap [] where
  ne_nil := ne
  shown := (shown_of_not_mem free).shown
  opens := opens

theorem Writes.append_gap (h : Writes x s) (free : '<' ∉ gap) (ne : gap ≠ [])
    (opens : Opens gap.getLast?) :
    Writes (x ++ gap) s := by
  simpa using h.append (writes_gap free ne opens)

/-- An element is closed behind its content, whatever the last character of the content is. -/
theorem Writes.close (hx : Writes x s) (free : '<' ∉ content) (hn : IsTagName name) :
    Writes (x ++ content ++ ("</".toList ++ name ++ ['>'])) (s ++ [closingTag name]) where
  ne_nil := by simp
  shown := by
    have inside := hx.shown.append_anywhere (shown_of_not_mem free)
    rw [List.append_nil] at inside
    exact inside.append_anywhere (shown_closing hn)
  opens := opens_append (opens_append (by decide) (List.cons_ne_nil _ _)) (by simp)

theorem Writes.bareTags_eq (h : Writes x s) : bareTags none x = s := by
  have whole := h.shown none [] (by simp [Opens])
  rw [List.append_nil] at whole
  rw [whole]
  exact List.append_nil s

theorem Writes.checkTags_eq_nil (h : Writes x s) (balanced : Balanced (marksOf false s))
    (checkAttributes : Bool) : checkTags false checkAttributes x = [] := by
  refine Markup.checkTags_eq_nil ?_ (fun he => by cases he) checkAttributes
  rwa [marks_eq, h.bareTags_eq]

/-! ## Coordinates -/

def Unbracketed (s : String) : Prop := ∀ c ∈ s.toList, c ≠ '<' ∧ c ≠ '>'

instance (s : String) : Decidable (Unbracketed s) := inferInstanceAs (Decidable (∀ c ∈ s.toList, _))

def isNumeric (c : Char) : Bool := c.isAlphanum || c == '-' || c == '.'

def Numeric (s : String) : Prop := ∀ c ∈ s.toList, isNumeric c = true

instance (s : String) : Decidable (Numeric s) := inferInstanceAs (Decidable (∀ c ∈ s.toList, _))

theorem Numeric.append {a b : String} (ha : Numeric a) (hb : Numeric b) : Numeric (a ++ b) := by
  rw [Numeric, String.toList_append]
  exact List.forall_mem_append.mpr ⟨ha, hb⟩

theorem numeric_toString (n : Nat) : Numeric (toString n) := by
  intro c hc
  rw [Nat.toString_eq_repr, Nat.toList_repr] at hc
  have digit := Nat.isDigit_of_mem_toDigits (by decide) (by decide) hc
  simp [isNumeric, Char.isAlphanum, digit]

theorem Numeric.signed {text : String} (h : Numeric text) (negative : Bool) :
    Numeric (signed negative text) := by
  unfold Handoff.signed
  split
  · exact .append (by decide) h
  · exact h

theorem numeric_shortHundredthsText (n : Nat) : Numeric (shortHundredthsText n) := by
  have pointed : Numeric (toString (n / 100) ++ ".") := (numeric_toString _).append (by decide)
  unfold shortHundredthsText hundredthsText twoDigits
  split
  · exact numeric_toString _
  · split
    · exact pointed.append (numeric_toString _)
    · refine pointed.append ?_
      split
      · exact .append (by decide) (numeric_toString _)
      · exact numeric_toString _

theorem numeric_coordinateText (x : Float) : Numeric (coordinateText x) := by
  unfold coordinateText
  split
  · unfold Dyadic.coordinate
    split
    · exact (numeric_toString _).signed _
    · exact (numeric_shortHundredthsText _).signed _
  · exact Numeric.signed (by decide) _
  · decide

theorem Numeric.unbracketed {text : String} (h : Numeric text) : Unbracketed text := by
  intro c hc
  have numeric := h c hc
  constructor <;> rintro rfl <;> exact absurd numeric (by decide)

/-! ## Shapes -/

def IsAttribute (name : String) : Prop :=
  IsOpenTail (" " ++ name ++ "=\"").toList ∧ ∃ c ∈ (" " ++ name ++ "=\"").toList, isSpace c = false

instance (name : String) : Decidable (IsAttribute name) := inferInstanceAs (Decidable (_ ∧ _))

theorem isOpenTail_attribute {name value : String} (hn : IsAttribute name)
    (free : Unbracketed value) :
    IsOpenTail (Shape.assigned name value).toList :=
  isOpenTail_around hn.1 hn.2 free (by decide) (by decide)

theorem isOpenTail_append {a b : String} (ha : IsOpenTail a.toList) (hb : IsOpenTail b.toList) :
    IsOpenTail (a ++ b).toList :=
  String.toList_append ▸ ha.append hb

def rectangleTag : Tag := ⟨false, "rect".toList, .start, true⟩

def textTags : List Tag :=
  [⟨false, "text".toList, .start, false⟩, ⟨true, "text".toList, .start, false⟩]

theorem balanced_textTags : Balanced (marksOf false textTags) := .element "text".toList .nil .nil

namespace Shape

def tags : Shape → List Tag
  | rectangle _ => [rectangleTag]
  | ellipse _ => [⟨false, "ellipse".toList, .start, true⟩]
  | label _ _ => textTags

theorem isOpenTail_coordinate {name : String} (hn : IsAttribute name) (x : Float) :
    IsOpenTail (coordinate name x).toList :=
  isOpenTail_attribute hn (numeric_coordinateText x).unbracketed

def attributes : Shape → String
  | rectangle box =>
    coordinate "x" (box.x + 0) ++ coordinate "y" (box.y + 0) ++
      (coordinate "width" box.width ++ coordinate "height" box.height) ++
      " fill=\"#f0f0f0\" stroke=\"#ccc\" stroke-width=\"1\""
  | ellipse box =>
    coordinate "cx" (box.x + box.width / 2 + 0) ++ coordinate "cy" (box.y + box.height / 2 + 0) ++
      (coordinate "rx" (box.width / 2) ++ coordinate "ry" (box.height / 2)) ++
      " fill=\"#e0e0e0\" stroke=\"#ccc\" stroke-width=\"1\""
  | label box _ =>
    coordinate "x" (box.x + 0) ++ coordinate "y" (box.y + 0 + baselineOffset) ++
      " font-family=\"Arial, sans-serif\" font-size=\"14\" fill=\"#333\""

/-- The attributes of a shape are put together from coordinates and a paint. -/
theorem attributes_induction {P : List Char → Prop} (append : ∀ {x y}, P x → P y → P (x ++ y))
    (place : ∀ name ∈ ["x", "y", "width", "height", "cx", "cy", "rx", "ry"], ∀ x,
      P (coordinate name x).toList)
    (paint : ∀ paint ∈ [" fill=\"#f0f0f0\" stroke=\"#ccc\" stroke-width=\"1\"",
      " fill=\"#e0e0e0\" stroke=\"#ccc\" stroke-width=\"1\"",
      " font-family=\"Arial, sans-serif\" font-size=\"14\" fill=\"#333\""], P paint.toList)
    (shape : Shape) : P shape.attributes.toList := by
  have two {a b : String} (ha : a ∈ ["x", "y", "width", "height", "cx", "cy", "rx", "ry"])
      (hb : b ∈ ["x", "y", "width", "height", "cx", "cy", "rx", "ry"]) (x y : Float) :
      P (coordinate a x ++ coordinate b y).toList := by
    rw [String.toList_append]
    exact append (place a ha x) (place b hb y)
  cases shape with
  | rectangle box =>
    rw [attributes, String.toList_append, String.toList_append]
    exact append (append (two (by decide) (by decide) _ _) (two (by decide) (by decide) _ _))
      (paint _ (by decide))
  | ellipse box =>
    rw [attributes, String.toList_append, String.toList_append]
    exact append (append (two (by decide) (by decide) _ _) (two (by decide) (by decide) _ _))
      (paint _ (by decide))
  | label box characters =>
    rw [attributes, String.toList_append]
    exact append (two (by decide) (by decide) _ _) (paint _ (by decide))

theorem isOpenTail_attributes (shape : Shape) : IsOpenTail shape.attributes.toList := by
  have named : ∀ name ∈ ["x", "y", "width", "height", "cx", "cy", "rx", "ry"],
      IsAttribute name := by
    decide +kernel
  exact attributes_induction IsOpenTail.append
    (fun name hm x => isOpenTail_coordinate (named name hm) x)
    (by decide +kernel) shape

theorem toList_render_rectangle (box : Box) :
    (rectangle box).render.toList = ("<" ++ "rect" ++ (rectangle box).attributes ++
      "/>").toList := by
  simp [render, attributes, rectanglePaint]

theorem toList_render_ellipse (box : Box) :
    (ellipse box).render.toList = ("<" ++ "ellipse" ++ (ellipse box).attributes ++
      "/>").toList := by
  simp [render, attributes, ellipsePaint]

theorem toList_render_label (box : Box) (characters : String) :
    (label box characters).render.toList =
      ("<" ++ "text" ++ (label box characters).attributes ++ ">").toList ++
        escape characters.toList ++
        ("</".toList ++ "text".toList ++ ['>']) := by
  simp [render, attributes, labelFont]

theorem writes_render (shape : Shape) : Writes shape.render.toList shape.tags := by
  have fits := shape.isOpenTail_attributes
  cases shape with
  | rectangle box =>
    rw [toList_render_rectangle]
    exact writes_empty (by decide) fits
  | ellipse box =>
    rw [toList_render_ellipse]
    exact writes_empty (by decide) fits
  | label box characters =>
    have free : '<' ∉ escape characters.toList := fun hm => (unbracketed_escape _ _ hm).1 rfl
    rw [toList_render_label]
    exact (writes_open (by decide) fits).close free (by decide)

theorem balanced_tags (shape : Shape) : Balanced (marksOf false shape.tags) := by
  cases shape with
  | rectangle box => exact .nil
  | ellipse box => exact .nil
  | label box characters => exact balanced_textTags

end Shape

/-! ## Drawings -/

namespace Drawing

variable {a b : String}

def rootTag : Tag := ⟨false, "svg".toList, .start, false⟩

def rootedTags (inner : List Tag) : List Tag :=
  [rootTag] ++ inner ++ [⟨true, "svg".toList, .start, false⟩]

theorem balanced_rootedTags {inner : List Tag} (h : Balanced (marksOf false inner)) :
    Balanced (marksOf false (rootedTags inner)) := by
  rw [rootedTags, marksOf_append, marksOf_append]
  exact h.wrap "svg".toList

theorem writes_openTag : Writes openTag.toList [rootTag] := by
  have tail : IsOpenTail (" width=\"400\" height=\"300\" viewBox=\"0 0 400 300\"" ++
      " xmlns=\"http://www.w3.org/2000/svg\"").toList :=
    isOpenTail_append (by decide) (by decide)
  have written : Writes ("<" ++ "svg" ++ _ ++ ">").toList _ := writes_open (by decide) tail
  simpa [openTag, rootTag] using written

theorem writes_rooted (h : Writes a.toList ([rootTag] ++ s)) :
    Writes (a ++ closeTag).toList (rootedTags s) := by
  have written : Writes (a.toList ++ [] ++ ("</".toList ++ "svg".toList ++ ['>'])) _ :=
    h.close List.not_mem_nil (by decide)
  rw [List.append_nil] at written
  rwa [String.toList_append]

theorem writes_join (h : Writes a.toList s) (drawn : List Shape) :
    Writes (a ++ String.join (drawn.map Shape.render)).toList (s ++ drawn.flatMap Shape.tags) := by
  induction drawn generalizing a s with
  | nil => simpa using h
  | cons shape drawn ih =>
    have led : Writes (a ++ shape.render).toList (s ++ shape.tags) :=
      String.toList_append ▸ h.append shape.writes_render
    simpa [String.append_assoc] using ih led

theorem writes_shapes (drawn : List Shape) :
    Writes (shapes drawn).render.toList (rootedTags (drawn.flatMap Shape.tags)) :=
  writes_rooted (writes_join writes_openTag drawn)

/-! ## Placeholders -/

theorem isOpenTail_wordsStyle {y size paint : String} (hy : Unbracketed y) (hs : Unbracketed size)
    (hp : Unbracketed paint) : IsOpenTail (wordsStyle y size paint).toList := by
  have place := isOpenTail_append (isOpenTail_attribute (by decide : IsAttribute "x")
    (by decide : Unbracketed "200")) (isOpenTail_attribute (by decide : IsAttribute "y") hy)
  have font := isOpenTail_append place
    (by decide : IsOpenTail " text-anchor=\"middle\" font-family=\"Arial, sans-serif\"".toList)
  exact isOpenTail_append (isOpenTail_append font
    (isOpenTail_attribute (by decide : IsAttribute "font-size") hs))
    (isOpenTail_attribute (by decide : IsAttribute "fill") hp)

theorem writes_words {y size paint content : String} (hy : Unbracketed y) (hs : Unbracketed size)
    (hp : Unbracketed paint) (free : '<' ∉ content.toList) :
    Writes (words y size paint content).toList textTags := by
  have opened : Writes ("<" ++ "text" ++ wordsStyle y size paint ++ ">").toList _ :=
    writes_open (by decide) (isOpenTail_wordsStyle hy hs hp)
  have written := opened.close free (by decide : IsTagName "text".toList)
  have split : (words y size paint content).toList =
      ("<" ++ "text" ++ wordsStyle y size paint ++ ">").toList ++ content.toList ++
        ("</".toList ++ "text".toList ++ ['>']) := by
    simp [words]
  exact split ▸ written

theorem joinLines_cons_cons (a b : String) (lines : List String) :
    joinLines (a :: b :: lines) = joinLines ((a ++ "\n" ++ b) :: lines) := by
  unfold joinLines
  rw [String.intercalate_cons_of_ne_nil (List.cons_ne_nil b lines)]
  rcases eq_or_ne lines [] with rfl | ne
  · rw [String.intercalate_singleton, String.intercalate_singleton]
  · rw [String.intercalate_cons_of_ne_nil ne, String.intercalate_cons_of_ne_nil ne]
    simp only [String.append_assoc]

theorem writes_joinLines {elements : List String} {tags : List (List Tag)}
    (h : List.Forall₂ (fun element tags => Writes element.toList tags) elements tags)
    (ha : Writes a.toList ([rootTag] ++ s)) :
    Writes (joinLines (a :: elements.map ("  " ++ ·) ++ [closeTag])).toList
      (rootedTags (s ++ tags.flatten)) := by
  induction h generalizing a s with
  | nil =>
    have led := ha.append_gap (by decide : '<' ∉ "\n".toList) (by decide) (by decide)
    rw [← String.toList_append] at led
    simpa [joinLines] using writes_rooted led
  | @cons element own elements tags first _ ih =>
    have led :=
      (ha.append_gap (by decide : '<' ∉ "\n  ".toList) (by decide) (by decide)).append first
    rw [← String.toList_append, ← String.toList_append, List.append_assoc] at led
    have split : a ++ "\n" ++ ("  " ++ element) = a ++ "\n  " ++ element := by
      simp [← String.toList_inj]
    rw [List.map_cons, List.cons_append, List.cons_append, joinLines_cons_cons, split,
      List.flatten_cons, ← List.append_assoc]
    exact ih led

theorem writes_placeholder {elements : List String} {tags : List (List Tag)}
    (h : List.Forall₂ (fun element tags => Writes element.toList tags) elements tags) :
    Writes (placeholder elements).toList (rootedTags tags.flatten) :=
  writes_joinLines h writes_openTag

/-- The attributes of the frame that stands for a design without shapes. -/
def emptyFrame : String :=
  " x=\"50\" y=\"50\" width=\"300\" height=\"200\" fill=\"#f0f0f0\" stroke=\"#ccc\" stroke-width=\"2\" rx=\"8\""

theorem isOpenTail_emptyFrame : IsOpenTail emptyFrame.toList := by decide +kernel

theorem emptyPlaceholder_eq : emptyPlaceholder =
    placeholder ["<" ++ "rect" ++ emptyFrame ++ "/>",
      words "160" "16" "#666" "Generated from Figma"] := by
  rfl

/-- The attributes of the frame that stands for a design that cannot be read. -/
def errorFrame : String :=
  " x=\"10\" y=\"10\" width=\"380\" height=\"280\" fill=\"none\" stroke=\"#ddd\" stroke-width=\"1\""

theorem isOpenTail_errorFrame : IsOpenTail errorFrame.toList := by decide +kernel

theorem errorPlaceholder_eq (message : String) : errorPlaceholder message =
    placeholder ["<" ++ "rect" ++ errorFrame ++ "/>", words "160" "14" "#999" errorLabel,
      words "180" "12" "#666" (String.ofList (escape message.toList))] := by
  rfl

theorem unbracketed_message (message : String) :
    '<' ∉ (String.ofList (escape message.toList)).toList := by
  rw [String.toList_ofList]
  exact fun hm => (unbracketed_escape _ _ hm).1 rfl

theorem writes_emptyPlaceholder :
    Writes emptyPlaceholder.toList (rootedTags [[rectangleTag], textTags].flatten) := by
  have frame := writes_empty (by decide : IsTagName "rect".toList) isOpenTail_emptyFrame
  have words := writes_words (by decide : Unbracketed "160") (by decide : Unbracketed "16")
    (by decide : Unbracketed "#666") (by decide : '<' ∉ "Generated from Figma".toList)
  rw [emptyPlaceholder_eq]
  exact writes_placeholder (.cons frame (.cons words .nil))

theorem writes_errorPlaceholder (message : String) :
    Writes (errorPlaceholder message).toList
      (rootedTags [[rectangleTag], textTags, textTags].flatten) := by
  have frame := writes_empty (by decide : IsTagName "rect".toList) isOpenTail_errorFrame
  have label := writes_words (by decide : Unbracketed "160") (by decide : Unbracketed "14")
    (by decide : Unbracketed "#999") (by decide : '<' ∉ errorLabel.toList)
  have words := writes_words (by decide : Unbracketed "180") (by decide : Unbracketed "12")
    (by decide : Unbracketed "#666") (unbracketed_message message)
  rw [errorPlaceholder_eq]
  exact writes_placeholder (.cons frame (.cons label (.cons words .nil)))

theorem balanced_shapes (drawn : List Shape) :
    Balanced (marksOf false (drawn.flatMap Shape.tags)) := by
  induction drawn with
  | nil => exact .nil
  | cons shape drawn ih =>
    rw [List.flatMap_cons, marksOf_append]
    exact shape.balanced_tags.append ih

/-- A frame closes itself, so the elements behind it are balanced as they were. -/
theorem balanced_framed {inner : List Tag} (h : Balanced (marksOf false inner)) :
    Balanced (marksOf false ([rectangleTag] ++ inner)) := by
  have closed : marksOf false [rectangleTag] = [] := by decide
  rwa [marksOf_append, closed]

theorem checkTags_render (drawing : Drawing) (checkAttributes : Bool) :
    checkTags false checkAttributes drawing.render.toList = [] := by
  cases drawing with
  | shapes drawn =>
    exact (writes_shapes drawn).checkTags_eq_nil (balanced_rootedTags (balanced_shapes drawn)) _
  | empty =>
    have framed := balanced_framed balanced_textTags
    exact writes_emptyPlaceholder.checkTags_eq_nil (balanced_rootedTags framed) _
  | unreadable fault =>
    have words : Balanced (marksOf false (textTags ++ textTags)) :=
      marksOf_append textTags textTags ▸ balanced_textTags.append balanced_textTags
    exact (writes_errorPlaceholder _).checkTags_eq_nil
      (balanced_rootedTags (balanced_framed words)) _

end Drawing

end Handoff
