import Handoff.Proofs.Markup.Renaming

/-! # Lines of nested elements

Texts and elements stand side by side, and inside an element there are such siblings again. Each tag
and each text that is not blank has a line of its own, as deep as there are elements around it; only
an element with a text and nothing else keeps to a single line. The lines hold all tags and texts in
their order.
-/

namespace Handoff.Markup

open Text

variable {rest : List Char}

/-! ## Tags and texts -/

structure Bracketed where
  body : List Char
  filled : body ≠ []
  free : '>' ∉ body

structure ElementTag extends Bracketed where
  opens : body.head? ≠ some '/'

structure OpeningTag extends ElementTag where
  waits : body.getLast? ≠ some '/'

structure EmptyTag extends ElementTag where
  ends : body.getLast? = some '/'

structure ClosingTag extends Bracketed where
  closes : body.head? = some '/'

/-- What stands between two tags. It may be blank, or nothing at all. -/
structure PlainText where
  content : List Char
  free : '<' ∉ content

def Bracketed.text (tag : Bracketed) : List Char := '<' :: tag.body ++ ['>']

/-- The text without the space around it, unless it is blank. -/
def PlainText.shown? (text : PlainText) : Option (List Char) :=
  if trim text.content = [] then none else some (trim text.content)

namespace Bracketed

variable (tag : Bracketed)

theorem isTag_text : isTag tag.text = true := rfl

theorem head?_text (rest : List Char) : ∀ c ∈ (tag.text ++ rest).head?, c = '<' := by
  rintro c ⟨⟩
  rfl

theorem isClosing_text : isClosing tag.text = (tag.body.head? == some '/') := by
  obtain ⟨c, body, hb⟩ := List.exists_cons_of_ne_nil tag.filled
  rw [text, hb, isClosing]
  simp [List.isPrefixOf, Bool.beq_eq_decide_eq, eq_comm]

theorem isOpening_text :
    isOpening tag.text = (!(tag.body.head? == some '/') && !(tag.body.getLast? == some '/')) := by
  have last : ('<' :: tag.body).getLast? = tag.body.getLast? := by
    obtain ⟨c, body, hb⟩ := List.exists_cons_of_ne_nil tag.filled
    rw [hb, List.getLast?_cons_cons]
  rw [isOpening, tag.isTag_text, tag.isClosing_text, text, isSuffixOf_slash, last, Bool.true_and]

theorem tokens_text (rest : List Char) : tokens (tag.text ++ rest) = tag.text :: tokens rest := by
  rw [text, ← List.append_cons]
  exact tokens_tag tag.filled tag.free rest

end Bracketed

theorem ElementTag.isClosing_text (tag : ElementTag) : ¬ isClosing tag.text = true := by
  rw [Bracketed.isClosing_text, beq_false_of_ne tag.opens]
  exact Bool.false_ne_true

theorem OpeningTag.isOpening_text (tag : OpeningTag) : isOpening tag.text = true := by
  rw [Bracketed.isOpening_text, beq_false_of_ne tag.opens, beq_false_of_ne tag.waits]
  rfl

theorem EmptyTag.isOpening_text (tag : EmptyTag) : ¬ isOpening tag.text = true := by
  rw [Bracketed.isOpening_text, tag.ends, beq_self_eq_true, Bool.not_true, Bool.and_false]
  exact Bool.false_ne_true

theorem ClosingTag.isClosing_text (tag : ClosingTag) : isClosing tag.text = true := by
  rw [Bracketed.isClosing_text, tag.closes]
  rfl

namespace PlainText

variable {text : PlainText} {shown : List Char}

theorem shown?_eq_some (h : text.shown? = some shown) : shown = trim text.content ∧ shown ≠ [] := by
  unfold shown? at h
  split at h
  · cases h
  · rename_i solid
    cases h
    exact ⟨rfl, solid⟩

theorem isTag_shown (h : text.shown? = some shown) : isTag shown = false := by
  rw [(shown?_eq_some h).1]
  exact isTag_of_not_mem (not_mem_trim text.free)

theorem tokens_append (text : PlainText) (hr : ∀ c ∈ rest.head?, c = '<') :
    tokens (text.content ++ rest) = text.shown?.toList ++ tokens rest := by
  rw [tokens_content text.free hr, shown?]
  simp only [List.isEmpty_iff]
  split <;> rfl

end PlainText

/-! ## Siblings -/

/-- Elements side by side, with one text before, between and behind them. -/
inductive Siblings
  | text (last : PlainText)
  | empty (lead : PlainText) (tag : EmptyTag) (rest : Siblings)
  | element (lead : PlainText) (opening : OpeningTag) (children : Siblings) (closing : ClosingTag)
      (rest : Siblings)

/-- A line: the tags and texts on it, and how many elements are around these. -/
structure LaidRow where
  depth : Nat
  parts : List (List Char)

def LaidRow.render (indent step : Nat) (row : LaidRow) : List Char :=
  List.replicate (indent + step * row.depth) ' ' ++ row.parts.flatten

def PlainText.rows (depth : Nat) (text : PlainText) : List LaidRow :=
  text.shown?.toList.map fun shown => ⟨depth, [shown]⟩

/-- The lines of an element with some lines inside, or with only a text. -/
def elementRows (depth : Nat) (opening closing : List Char) (inner : List LaidRow) :
    Option (List Char) → List LaidRow
  | some shown => [⟨depth, [opening, shown, closing]⟩]
  | none => ⟨depth, [opening]⟩ :: (inner ++ [⟨depth, [closing]⟩])

namespace Siblings

def render : Siblings → List Char
  | text last => last.content
  | empty lead tag rest => lead.content ++ (tag.text ++ rest.render)
  | element lead opening children closing rest =>
    lead.content ++ (opening.text ++ (children.render ++ (closing.text ++ rest.render)))

def parts : Siblings → List (List Char)
  | text last => last.shown?.toList
  | empty lead tag rest => lead.shown?.toList ++ tag.text :: rest.parts
  | element lead opening children closing rest =>
    lead.shown?.toList ++ opening.text :: (children.parts ++ closing.text :: rest.parts)

def onlyText? : Siblings → Option (List Char)
  | text last => last.shown?
  | empty _ _ _ => none
  | element _ _ _ _ _ => none

def rows (depth : Nat) : Siblings → List LaidRow
  | text last => last.rows depth
  | empty lead tag rest => lead.rows depth ++ ⟨depth, [tag.text]⟩ :: rest.rows depth
  | element lead opening children closing rest =>
    lead.rows depth ++
      elementRows depth opening.text closing.text (children.rows (depth + 1)) children.onlyText? ++
      rest.rows depth

theorem tokens_render (siblings : Siblings) (rest : List Char) (hr : ∀ c ∈ rest.head?, c = '<') :
    tokens (siblings.render ++ rest) = siblings.parts ++ tokens rest := by
  induction siblings generalizing rest with
  | text last => exact last.tokens_append hr
  | empty lead tag others ih =>
    calc tokens (lead.content ++ (tag.text ++ others.render) ++ rest)
        = tokens (lead.content ++ (tag.text ++ (others.render ++ rest))) := by
          simp only [List.append_assoc]
      _ = lead.shown?.toList ++ tag.text :: (others.parts ++ tokens rest) := by
        rw [lead.tokens_append (tag.head?_text _), tag.tokens_text, ih rest hr]
      _ = (empty lead tag others).parts ++ tokens rest := by
        rw [parts, List.append_assoc, List.cons_append]
  | element lead opening children closing others ihc iho =>
    calc tokens ((element lead opening children closing others).render ++ rest)
        = tokens (lead.content ++
            (opening.text ++ (children.render ++ (closing.text ++ (others.render ++ rest))))) := by
          simp only [render, List.append_assoc]
      _ = lead.shown?.toList ++
            opening.text :: (children.parts ++ closing.text :: (others.parts ++ tokens rest)) := by
        rw [lead.tokens_append (opening.head?_text _), opening.tokens_text,
          ihc _ (closing.head?_text _), closing.tokens_text, iho rest hr]
      _ = (element lead opening children closing others).parts ++ tokens rest := by
        simp only [parts, List.append_assoc, List.cons_append]

end Siblings

/-! ## Lines -/

section Lines

variable {indent step : Int} {tokens : List (List Char)} {depth : Nat}

def LaidRow.line (indent step : Int) (row : LaidRow) : Line :=
  ⟨indentAt indent step row.depth, row.parts.flatten⟩

theorem LaidRow.line_single (depth : Nat) (token : List Char) :
    LaidRow.line indent step ⟨depth, [token]⟩ = ⟨indentAt indent step depth, token⟩ := by
  rw [line, List.flatten_singleton]

theorem linesFrom_shown (text : PlainText) (depth : Nat) (tokens : List (List Char)) :
    linesFrom indent step depth (text.shown?.toList ++ tokens) =
      (text.rows depth).map (LaidRow.line indent step) ++ linesFrom indent step depth tokens := by
  rw [PlainText.rows]
  cases hs : text.shown? with
  | none => rfl
  | some shown =>
    have plain := PlainText.isTag_shown hs
    have closes : ¬ isClosing shown = true := fun h =>
      ne_true_of_eq_false plain (isTag_of_isClosing h)
    have opens : ¬ isOpening shown = true := by
      rw [isOpening, plain]
      exact Bool.false_ne_true
    rw [Option.toList_some, List.singleton_append, linesFrom_single closes opens,
      List.map_singleton, List.map_singleton, LaidRow.line_single, List.singleton_append]

/-- The two tokens behind an opening tag are a text and a closing tag only where the element has
nothing but the text inside. Both belong to the element, whatever follows it. -/
theorem Siblings.apart_parts {children : Siblings} (mixed : children.onlyText? = none)
    (closing : ClosingTag) {content closed : List Char} {more : List (List Char)}
    (he : children.parts ++ closing.text :: tokens = content :: closed :: more) :
    ¬ (!isTag content && isClosing closed) = true := by
  have apart (lead : PlainText) (tag : ElementTag) {others : List (List Char)}
      (he : lead.shown?.toList ++ tag.text :: others = content :: closed :: more) :
      ¬ (!isTag content && isClosing closed) = true := by
    cases hs : lead.shown? with
    | none =>
      rw [hs] at he
      cases he
      exact Bool.false_ne_true
    | some shown =>
      rw [hs] at he
      cases he
      exact fun h => tag.isClosing_text (Bool.and_eq_true_iff.mp h).2
  cases children with
  | text last =>
    -- a blank text is no token, so the closing tag comes first
    rw [onlyText?] at mixed
    rw [parts, mixed] at he
    cases he
    exact Bool.false_ne_true
  | empty lead tag rest =>
    rw [parts, List.append_assoc] at he
    exact apart lead tag.toElementTag he
  | element lead opening children closing' rest =>
    rw [parts, List.append_assoc] at he
    exact apart lead opening.toElementTag he

theorem Siblings.parts_of_onlyText? {children : Siblings} {shown : List Char}
    (h : children.onlyText? = some shown) : children.parts = [shown] ∧ isTag shown = false := by
  cases children with
  | text last =>
    exact ⟨by rw [parts, show last.shown? = some shown from h]; rfl, PlainText.isTag_shown h⟩
  | empty lead tag rest => cases h
  | element lead opening children closing rest => cases h

/-- An element is laid out as its children are, and what follows is laid out as deep as the element
is. -/
theorem linesFrom_paired (opening : OpeningTag) (children : Siblings) (closing : ClosingTag)
    (laid : ∀ depth tokens, linesFrom indent step depth (children.parts ++ tokens) =
      (children.rows depth).map (LaidRow.line indent step) ++ linesFrom indent step depth tokens) :
    linesFrom indent step depth (opening.text :: (children.parts ++ closing.text :: tokens)) =
      (elementRows depth opening.text closing.text (children.rows (depth + 1))
        children.onlyText?).map (LaidRow.line indent step) ++
        linesFrom indent step depth tokens := by
  cases only : children.onlyText? with
  | some shown =>
    obtain ⟨parts, plain⟩ := Siblings.parts_of_onlyText? only
    have alone : (!isTag shown && isClosing closing.text) = true := by
      rw [plain, closing.isClosing_text]; rfl
    rw [parts, List.singleton_append, linesFrom_element opening.isClosing_text
      opening.isOpening_text alone]
    simp [elementRows, LaidRow.line]
  | none =>
    rw [linesFrom_opening opening.isClosing_text opening.isOpening_text fun _ _ _ he =>
        Siblings.apart_parts only closing he, laid, linesFrom_closing closing.isClosing_text,
        Nat.add_sub_cancel]
    simp [elementRows, LaidRow.line_single]

theorem Siblings.linesFrom_parts (siblings : Siblings) (indent step : Int) (depth : Nat)
    (tokens : List (List Char)) :
    linesFrom indent step depth (siblings.parts ++ tokens) =
      (siblings.rows depth).map (LaidRow.line indent step) ++
        linesFrom indent step depth tokens := by
  induction siblings generalizing depth tokens with
  | text last => exact linesFrom_shown last depth tokens
  | empty lead tag rest ih =>
    rw [parts, List.append_assoc, List.cons_append, linesFrom_shown,
      linesFrom_single tag.isClosing_text tag.isOpening_text, ih, rows, List.map_append,
      List.map_cons, LaidRow.line_single, List.append_assoc, List.cons_append]
  | element lead opening children closing rest ihc ihr =>
    rw [parts, List.append_assoc, List.cons_append, List.append_assoc, List.cons_append,
      linesFrom_shown,
      linesFrom_paired opening children closing ihc, ihr, rows, List.map_append, List.map_append]
    simp only [List.append_assoc]

end Lines

/-- The lines hold the tags and texts in their order. -/
theorem Siblings.flatMap_rows (siblings : Siblings) (depth : Nat) :
    (siblings.rows depth).flatMap LaidRow.parts = siblings.parts := by
  have lead (text : PlainText) (depth : Nat) :
      (text.rows depth).flatMap LaidRow.parts = text.shown?.toList := by
    rw [PlainText.rows]
    cases text.shown? <;> rfl
  induction siblings generalizing depth with
  | text last => exact lead last depth
  | empty text tag rest ih => simp [rows, parts, lead, ih]
  | element text opening children closing rest ihc ihr =>
    cases only : children.onlyText? with
    | some shown => simp [rows, elementRows, parts, lead, ihr, only, (parts_of_onlyText? only).1]
    | none => simp [rows, elementRows, parts, lead, ihc, ihr, only]

/-! ## Indentation -/

/-- What stands on a line behind its indentation starts with no space. -/
def LaidRow.Solid (row : LaidRow) : Prop :=
  ∃ c rest, row.parts.flatten = c :: rest ∧ isSpace c = false

theorem Bracketed.solid_row (tag : Bracketed) (depth : Nat) (more : List (List Char)) :
    LaidRow.Solid ⟨depth, tag.text :: more⟩ :=
  ⟨'<', _, rfl, by decide⟩

theorem PlainText.solid_rows (text : PlainText) (depth : Nat) :
    ∀ row ∈ text.rows depth, row.Solid := by
  intro row hm
  obtain ⟨shown, found, rfl⟩ := List.mem_map.mp hm
  obtain ⟨trimmed, ne⟩ := shown?_eq_some (Option.mem_toList.mp found)
  obtain ⟨c, rest, hs⟩ := List.exists_cons_of_ne_nil ne
  refine ⟨c, rest, by rw [List.flatten_singleton, hs], head?_trimBoth isSpace text.content c ?_⟩
  rw [← trim, ← trimmed, hs]
  rfl

theorem Siblings.solid_rows (siblings : Siblings) (depth : Nat) :
    ∀ row ∈ siblings.rows depth, row.Solid := by
  induction siblings generalizing depth with
  | text last => exact last.solid_rows depth
  | empty lead tag rest ih =>
    exact List.forall_mem_append.mpr
      ⟨lead.solid_rows depth, List.forall_mem_cons.mpr ⟨tag.solid_row depth [], ih depth⟩⟩
  | element lead opening children closing rest ihc ihr =>
    have paired : ∀ row ∈ elementRows depth opening.text closing.text (children.rows (depth + 1))
        children.onlyText?, row.Solid := by
      cases children.onlyText? with
      | some shown => exact List.forall_mem_singleton.mpr (opening.solid_row depth _)
      | none =>
        refine List.forall_mem_cons.mpr ⟨opening.solid_row depth [], List.forall_mem_append.mpr
          ⟨ihc _, ?_⟩⟩
        exact List.forall_mem_singleton.mpr (closing.solid_row depth [])
    exact List.forall_mem_append.mpr
      ⟨List.forall_mem_append.mpr ⟨lead.solid_rows depth, paired⟩, ihr depth⟩

theorem LaidRow.Solid.dropWhile_render {row : LaidRow} (h : row.Solid) (indent step : Nat) :
    (row.render indent step).dropWhile isSpace = row.parts.flatten := by
  obtain ⟨c, rest, hs, solid⟩ := h
  have spaces (n : Nat) : ∀ d ∈ List.replicate n ' ', isSpace d = true := fun d hd =>
    List.eq_of_mem_replicate hd ▸ by decide
  rw [LaidRow.render, List.dropWhile_append_of_pos (spaces _), hs]
  exact List.dropWhile_cons_of_neg (by rw [solid]; exact Bool.false_ne_true)

theorem LaidRow.render_line (indent step : Nat) (row : LaidRow) :
    (row.line indent step).render = row.render indent step := by
  have width : indentAt indent step row.depth = indent + step * row.depth := by
    rw [indentAt, ← Int.natCast_mul, ← Int.natCast_add, Int.toNat_natCast, Nat.mul_comm]
  rw [line, Line.render, width, render]

theorem layout_render (siblings : Siblings) (indent step : Nat) :
    layout indent step siblings.render = (siblings.rows 0).map (LaidRow.render indent step) := by
  have read : tokens siblings.render = siblings.parts := by
    have whole := siblings.tokens_render [] (by simp)
    rwa [List.append_nil, show tokens [] = [] from rfl, List.append_nil] at whole
  have laid := siblings.linesFrom_parts indent step 0 []
  rw [List.append_nil, show linesFrom indent step 0 [] = [] from rfl, List.append_nil] at laid
  rw [layout, read, laid, List.map_map]
  exact List.map_congr_left fun row _ => row.render_line indent step

/-- Siblings are laid out in lines that hold all tags and texts in their order, each as deep as
there are elements around it: so without the indentation the lines are what they were made from. -/
theorem layout_siblings (siblings : Siblings) (indent step : Nat) :
    layout indent step siblings.render = (siblings.rows 0).map (LaidRow.render indent step) ∧
    (siblings.rows 0).flatMap LaidRow.parts = siblings.parts ∧
    (layout indent step siblings.render).flatMap (List.dropWhile isSpace) =
      siblings.parts.flatten := by
  have lines := layout_render siblings indent step
  refine ⟨lines, siblings.flatMap_rows 0, ?_⟩
  rw [lines, List.flatMap_map]
  calc (siblings.rows 0).flatMap (fun row => (row.render indent step).dropWhile isSpace)
      = (siblings.rows 0).flatMap (List.flatten ∘ LaidRow.parts) :=
        List.flatMap_congr fun row hm => (siblings.solid_rows 0 row hm).dropWhile_render indent step
    _ = ((siblings.rows 0).flatMap LaidRow.parts).flatten := by
        simp [List.flatMap_def, List.flatten_flatten]
    _ = siblings.parts.flatten := by rw [siblings.flatMap_rows]

example : layout 0 2 "<g> <a><t> Hi </t></a>there<path/></g>".toList =
    ["<g>", "  <a>", "    <t>Hi</t>", "  </a>", "  there", "  <path/>", "</g>"].map
      String.toList := by
  decide +kernel

end Handoff.Markup
