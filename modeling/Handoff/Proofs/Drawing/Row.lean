import Handoff.Proofs.Drawing.Faithful
import Handoff.Proofs.Markup.Active
import Handoff.Proofs.Markup.Renaming

/-! # Rows of elements

Inside its root, a drawing is a row: empty elements and text elements one behind the other, with
nothing but spaces between them. A row stays one when its attributes are renamed, when it is trimmed
and when it is laid out, and what becomes of the contents of its texts is known. No tag in a row
holds an active character, so all the signs in a row stand in its texts.
-/

namespace Handoff

open Markup Text

variable {c : Char} {element gap name tail content text rest x y sign : List Char}
  {own contents : List (List Char)} {m : List Mark} {f : List Char → List Char}

/-- An element with the contents of its texts: an empty element of another name than that of texts,
or a text element. -/
inductive IsElement : List Char → List (List Char) → Prop
  | empty {name tail : List Char} : IsTagName name → name.head? ≠ some 't' → IsOpenTail tail →
    Passive tail → IsElement ('<' :: name ++ (tail ++ ['/']) ++ ['>']) []
  | text {tail content : List Char} : IsOpenTail tail → Passive tail → '<' ∉ content →
    IsElement ('<' :: "text".toList ++ tail ++ ['>'] ++ content ++ "</text>".toList) [content]

/-- Elements with spaces around them, and the contents of their texts in order. -/
inductive Row : List Char → List (List Char) → Prop
  | gap {gap : List Char} : (∀ c ∈ gap, isSpace c = true) → Row gap []
  | element {gap element rest : List Char} {own contents : List (List Char)} :
    (∀ c ∈ gap, isSpace c = true) → IsElement element own → Row rest contents →
    Row (gap ++ element ++ rest) (own ++ contents)

theorem isTagName_text : IsTagName "text".toList := by decide

theorem IsElement.row (h : IsElement element own) (hr : Row rest contents) :
    Row (element ++ rest) (own ++ contents) :=
  Row.element (List.forall_mem_nil _) h hr

theorem IsElement.shape (h : IsElement element own) : ∃ body, element = '<' :: body ++ ['>'] := by
  cases h with
  | empty => exact ⟨_, rfl⟩
  | @text tail content =>
    exact ⟨"text".toList ++ tail ++ '>' :: content ++ "</text".toList, by simp⟩

/-! ## What is in a row -/

theorem IsElement.woven (h : IsElement element own) (hr : Woven true rest m) :
    ∃ m, Woven true (element ++ rest) m := by
  cases h with
  | empty hn _ ht _ =>
    exact ⟨_, (IsTag.opening hn (ht.toIsTagTail.append isTagTail_slash)).woven hr⟩
  | text ht _ hc =>
    have closed := (IsTag.closing isTagName_text).woven hr
    have opened := (ht.isTag isTagName_text (.inl rfl)).woven (closed.lead hc)
    exact ⟨_, by simpa using opened⟩

theorem Row.woven (h : Row text contents) : ∃ m, Woven true text m := by
  induction h with
  | gap hg => exact ⟨[], .text (not_mem_spaces hg (by decide))⟩
  | element hg he _ ih =>
    obtain ⟨m, hr⟩ := ih
    obtain ⟨m, whole⟩ := he.woven hr
    rw [List.append_assoc]
    exact ⟨m, whole.lead (not_mem_spaces hg (by decide))⟩

theorem IsElement.textContents (h : IsElement element own) (rest : List Char) :
    textContents (element ++ rest) = own ++ textContents rest := by
  cases h with
  | @empty name tail hn other ht _ =>
    obtain ⟨c, name, rfl⟩ := List.exists_cons_of_ne_nil hn.ne_nil
    have free : '<' ∉ c :: name ++ (tail ++ ['/', '>']) := by
      have named : '<' ∉ c :: name := hn.not_mem (by decide)
      have plain : '<' ∉ tail := fun hm => (ht.free _ hm).1 rfl
      simp only [List.mem_append, not_or]
      exact ⟨named, plain, by decide⟩
    have passed := textContents_tag (by simpa using other) free rest
    simpa using passed
  | @text tail content ht _ hc =>
    exact textContents_append (fun hm => (ht.free _ hm).2 rfl) hc rest

theorem Row.textContents (h : Row text contents) : textContents text = contents := by
  induction h with
  | gap hg =>
    have passed := textContents_of_not_mem (not_mem_spaces hg (by decide)) []
    rwa [List.append_nil, textContents_nil] at passed
  | element hg he _ ih =>
    rw [List.append_assoc, textContents_of_not_mem (not_mem_spaces hg (by decide)),
      he.textContents, ih]

def Holds (sign : List Char) (texts : List (List Char)) : Prop :=
  ∃ content ∈ texts, sign <:+: content

theorem holds_append : Holds sign (own ++ contents) ↔ Holds sign own ∨ Holds sign contents := by
  simp only [Holds, List.mem_append, or_and_right, exists_or]

theorem not_holds_nil : ¬ Holds sign [] := fun ⟨_, hm, _⟩ => List.not_mem_nil hm

theorem holds_singleton : Holds sign [content] ↔ sign <:+: content := by
  simp [Holds]

theorem IsElement.infix_iff (h : IsElement element own) (hs : IsSign sign) (rest : List Char) :
    sign <:+: element ++ rest ↔ Holds sign own ∨ sign <:+: rest := by
  cases h with
  | @empty name tail hn _ _ passive =>
    have all : Passive ('<' :: name ++ (tail ++ ['/']) ++ ['>']) := by
      simp only [List.cons_append, passive_cons, passive_append]
      exact ⟨rfl, ⟨hn.passive, passive, by decide⟩, by decide⟩
    rw [hs.infix_append_left_iff all, or_iff_right not_holds_nil]
  | @text tail content _ passive _ =>
    have opened : Passive ('<' :: "text".toList ++ tail ++ ['>']) := by
      simp only [List.cons_append, passive_cons, passive_append]
      exact ⟨rfl, ⟨by decide, passive⟩, by decide⟩
    rw [List.append_assoc _ content, List.append_assoc _ (content ++ _),
      hs.infix_append_left_iff opened,
      hs.infix_between_iff (by decide) (by decide), holds_singleton]

theorem Row.infix_iff (h : Row text contents) (hs : IsSign sign) : sign <:+: text ↔
    Holds sign contents := by
  induction h with
  | gap hg => exact iff_of_false (hs.not_infix (passive_spaces hg)) not_holds_nil
  | element hg he _ ih =>
    rw [List.append_assoc, hs.infix_append_left_iff (passive_spaces hg), he.infix_iff hs, ih,
      holds_append]

/-! ## Renaming and trimming -/

theorem IsElement.mapNames (hf : KeepsNames f) (h : IsElement element own) :
    ∃ image, IsElement image (own.map (mapNames f)) ∧
      ∀ rest, Markup.mapNames f (element ++ rest) = image ++ Markup.mapNames f rest := by
  cases h with
  | @empty name tail hn other ht passive =>
    have slash : Markup.mapNames f (tail ++ ['/']) = Markup.mapNames f tail ++ ['/'] := by
      rw [mapNames_append_bar f ⟨by decide, by decide, by decide⟩, mapNames_nil]
    refine ⟨_, .empty hn other (ht.mapNames hf) (passive.mapNames hf), fun rest => ?_⟩
    rw [mapNames_opening f hn (ht.toIsTagTail.append isTagTail_slash), slash]
  | @text tail content ht passive hc =>
    refine ⟨_, .text (ht.mapNames hf) (passive.mapNames hf) (not_mem_mapNames hf isBar_lt.parts hc),
      fun rest => ?_⟩
    have closed : Markup.mapNames f ("</text>".toList ++ rest) = "</text>".toList ++
        Markup.mapNames f rest :=
      mapNames_closing f isTagName_text rest
    have opened :=
      mapNames_opening f isTagName_text ht.toIsTagTail (content ++ ("</text>".toList ++ rest))
    rw [mapNames_lead f content (by simp), closed] at opened
    simpa using opened

theorem Row.mapNames (hf : KeepsNames f) (h : Row text contents) :
    Row (mapNames f text) (contents.map (mapNames f)) := by
  induction h with
  | @gap gap hg =>
    have alone := mapNames_append_parted f (fun c hc => continuesName_of_isSpace (hg c hc)) []
    rw [mapNames_nil, List.append_nil] at alone
    rw [alone]
    exact .gap hg
  | element hg he _ ih =>
    obtain ⟨image, hi, mapped⟩ := he.mapNames hf
    rw [List.append_assoc, mapNames_append_parted f fun c hc => continuesName_of_isSpace (hg c hc),
      mapped, List.map_append, ← List.append_assoc]
    exact .element hg hi ih

theorem Row.dropWhile (h : Row text contents) : Row (text.dropWhile isSpace) contents := by
  cases h with
  | gap hg => exact .gap fun c hc => hg c ((List.dropWhile_sublist _).subset hc)
  | @element gap element rest _ _ hg he hr =>
    obtain ⟨body, rfl⟩ := he.shape
    rw [List.append_assoc, List.dropWhile_append_of_pos hg, List.cons_append, List.cons_append,
      List.dropWhile_cons_of_neg (by decide)]
    exact he.row hr

theorem Row.rdropWhile (h : Row text contents) : Row (text.rdropWhile isSpace) contents := by
  induction h with
  | gap hg => exact .gap fun c hc => hg c ((List.rdropWhile_prefix _ _).subset hc)
  | @element gap element rest _ _ hg he _ ih =>
    obtain ⟨body, rfl⟩ := he.shape
    have split : (gap ++ ('<' :: body ++ ['>']) ++ rest).rdropWhile isSpace =
        gap ++ ('<' :: body ++ ['>']) ++ rest.rdropWhile isSpace := by
      rw [← List.append_assoc, List.append_assoc, List.singleton_append,
        rdropWhile_append_cons (by decide)]
      simp
    rw [split]
    exact .element hg he ih

theorem Row.trim (h : Row text contents) : Row (trim text) contents := h.dropWhile.rdropWhile

/-! ## Laying out -/

/-- What becomes of the content of a text, given how many spaces stand before the lines. A text
without more than spaces goes over two lines. -/
def laidContent (spaces : Nat) (content : List Char) : List Char :=
  if (trim content).isEmpty then '\n' :: List.replicate spaces ' ' else trim content

theorem infix_laidContent_iff (hs : IsSign sign) (spaces : Nat) :
    sign <:+: laidContent spaces content ↔ sign <:+: content := by
  rw [← hs.infix_trim_iff content, laidContent]
  split
  · rename_i blank
    rw [List.isEmpty_iff.mp blank]
    have gap : Passive ('\n' :: List.replicate spaces ' ') :=
      passive_cons.mpr ⟨rfl, fun c hc => List.eq_of_mem_replicate hc ▸ rfl⟩
    exact iff_of_false (hs.not_infix gap) (hs.not_infix (List.forall_mem_nil _))
  · rfl

theorem isClosing_opening (hn : IsTagName name) (tail : List Char) :
    isClosing ('<' :: name ++ tail) = false := by
  obtain ⟨c, name, rfl⟩ := List.exists_cons_of_ne_nil hn.ne_nil
  have letter := hn.first c rfl
  refine isClosing_cons ?_ (name ++ tail)
  rintro rfl
  exact absurd letter (by decide)

theorem isOpening_opening (hn : IsTagName name) (tail : List Char) :
    isOpening ('<' :: name ++ tail ++ ['>']) = !(tail.getLast? == some '/') := by
  have named : ('<' :: name).getLast? ≠ some '/' := by
    intro last
    rcases List.mem_cons.mp (List.mem_of_getLast? last) with he | hm
    · exact absurd he (by decide)
    · exact hn.not_mem (by decide) hm
  have last : (('<' :: name ++ tail).getLast? == some '/') = (tail.getLast? == some '/') := by
    rw [List.getLast?_append]
    cases tail.getLast? with
    | none => exact beq_false_of_ne named
    | some c => rfl
  rw [isOpening, isSuffixOf_slash, last, List.append_assoc, isClosing_opening hn]
  rfl

theorem linesFrom_empty (hn : IsTagName name) (tail : List Char) (indent step : Int)
    (tokens : List (List Char)) :
    linesFrom indent step 0 (('<' :: name ++ (tail ++ ['/']) ++ ['>']) :: tokens) =
      ⟨indentAt indent step 0, '<' :: name ++ (tail ++ ['/']) ++ ['>']⟩ ::
        linesFrom indent step 0 tokens := by
  refine linesFrom_single ?_ ?_
  · rw [List.append_assoc, isClosing_opening hn]
    exact Bool.false_ne_true
  · rw [isOpening_opening hn, List.getLast?_append]
    exact Bool.false_ne_true

theorem linesFrom_text (ht : IsOpenTail tail) (free : '<' ∉ content) (indent step : Int)
    (tokens : List (List Char)) :
    linesFrom indent step 0 (('<' :: "text".toList ++ tail ++ ['>']) :: content ::
      "</text>".toList :: tokens) =
      ⟨indentAt indent step 0, '<' :: "text".toList ++ tail ++ ['>'] ++ content ++
        "</text>".toList⟩ ::
        linesFrom indent step 0 tokens := by
  refine linesFrom_element ?_ ?_ ?_
  · rw [List.append_assoc, isClosing_opening isTagName_text]
    exact Bool.false_ne_true
  · rw [isOpening_opening isTagName_text, beq_false_of_ne ht.waits]
    rfl
  · rw [isTag_of_not_mem free]
    rfl

/-- The tags of a text element without a text go on lines of their own. -/
theorem linesFrom_blank (ht : IsOpenTail tail) (indent step : Int) (tokens : List (List Char)) :
    linesFrom indent step 0 (('<' :: "text".toList ++ tail ++ ['>']) ::
      "</text>".toList :: tokens) =
      ⟨indentAt indent step 0, '<' :: "text".toList ++ tail ++ ['>']⟩ ::
        ⟨indentAt indent step 0, "</text>".toList⟩ :: linesFrom indent step 0 tokens := by
  rw [linesFrom_opening, linesFrom_closing rfl]
  · rw [List.append_assoc, isClosing_opening isTagName_text]
    exact Bool.false_ne_true
  · rw [isOpening_opening isTagName_text, beq_false_of_ne ht.waits]
    rfl
  · rintro _ _ _ ⟨⟩ alone
    cases alone

theorem tokens_empty (hn : IsTagName name) (ht : IsOpenTail tail) (rest : List Char) :
    tokens ('<' :: name ++ (tail ++ ['/']) ++ ['>'] ++ rest) =
      ('<' :: name ++ (tail ++ ['/']) ++ ['>']) :: tokens rest := by
  have named : '>' ∉ name := hn.not_mem (by decide)
  have plain : '>' ∉ tail := fun hm => (ht.free _ hm).2 rfl
  have free : '>' ∉ name ++ (tail ++ ['/']) := by simpa using ⟨named, plain⟩
  rw [← List.append_cons]
  exact tokens_tag (by simp) free rest

theorem tokens_text (ht : IsOpenTail tail) (free : '<' ∉ content) (rest : List Char) :
    tokens ('<' :: "text".toList ++ tail ++ ['>'] ++ content ++ "</text>".toList ++ rest) =
      ('<' :: "text".toList ++ tail ++ ['>']) ::
        ((if (trim content).isEmpty then [] else [trim content]) ++
          "</text>".toList :: tokens rest) := by
  have plain : '>' ∉ "text".toList ++ tail := by
    have tailed : '>' ∉ tail := fun hm => (ht.free _ hm).2 rfl
    simpa using tailed
  have closed : tokens ("</text>".toList ++ rest) = "</text>".toList :: tokens rest :=
    @tokens_tag "/text".toList (by decide) (by decide) rest
  calc tokens ('<' :: "text".toList ++ tail ++ ['>'] ++ content ++ "</text>".toList ++ rest)
      = tokens ('<' :: ("text".toList ++ tail) ++
        '>' :: (content ++ ("</text>".toList ++ rest))) := by simp
    _ = ('<' :: ("text".toList ++ tail) ++ ['>']) :: tokens
      (content ++ ("</text>".toList ++ rest)) :=
      tokens_tag (by simp) plain _
    _ = ('<' :: "text".toList ++ tail ++ ['>']) ::
        ((if (trim content).isEmpty then [] else [trim content]) ++
          "</text>".toList :: tokens rest) := by
      rw [tokens_content free (by simp), closed]
      rfl

theorem IsElement.layout (h : IsElement element own) (indent step : Int) (rest : List Char) :
    ∃ lines, Markup.layout indent step (element ++ rest) = lines ++ Markup.layout indent step rest ∧
      ∀ {text contents}, Row text contents → Row (lines.flatMap ('\n' :: ·) ++ text)
        (own.map (laidContent (indentAt indent step 0)) ++ contents) := by
  have margin : ∀ c ∈ '\n' :: List.replicate (indentAt indent step 0) ' ', isSpace c = true :=
    List.forall_mem_cons.mpr ⟨rfl, fun c hc => List.eq_of_mem_replicate hc ▸ rfl⟩
  cases h with
  | @empty name tail hn other ht passive =>
    refine ⟨[List.replicate (indentAt indent step 0) ' ' ++
      ('<' :: name ++ (tail ++ ['/']) ++ ['>'])], ?_, fun hr => ?_⟩
    · rw [Markup.layout, tokens_empty hn ht, linesFrom_empty hn]
      rfl
    · have placed := Row.element margin (.empty hn other ht passive) hr
      simpa using placed
  | @text tail content ht passive free =>
    rw [List.map_singleton, laidContent, Markup.layout, tokens_text ht free]
    split
    · refine ⟨[List.replicate (indentAt indent step 0) ' ' ++
        ('<' :: "text".toList ++ tail ++ ['>']),
        List.replicate (indentAt indent step 0) ' ' ++ "</text>".toList], ?_, fun hr => ?_⟩
      · rw [List.nil_append, linesFrom_blank ht]
        rfl
      · have gap : '<' ∉ '\n' :: List.replicate (indentAt indent step 0) ' ' :=
          not_mem_spaces margin (by decide)
        have placed := Row.element margin (.text ht passive gap) hr
        simpa using placed
    · refine ⟨[List.replicate (indentAt indent step 0) ' ' ++
        ('<' :: "text".toList ++ tail ++ ['>'] ++ trim content ++ "</text>".toList)], ?_, fun hr =>
          ?_⟩
      · rw [List.singleton_append, linesFrom_text ht (not_mem_trim free)]
        rfl
      · have placed := Row.element margin (.text ht passive (not_mem_trim free)) hr
        simpa using placed

theorem Row.layout (h : Row text contents) (indent step : Int) :
    Row ((layout indent step text).flatMap ('\n' :: ·))
      (contents.map (laidContent (indentAt indent step 0))) := by
  induction h with
  | @gap gap hg =>
    have blank : tokens (gap ++ []) = [] := tokens_gap hg fun c hc => nomatch hc
    rw [List.append_nil] at blank
    rw [Markup.layout, blank]
    exact .gap (List.forall_mem_nil _)
  | @element gap element rest _ _ hg he _ ih =>
    obtain ⟨lines, laid, placed⟩ := he.layout indent step rest
    have starts : ∀ c ∈ (element ++ rest).head?, c = '<' := by
      obtain ⟨body, rfl⟩ := he.shape
      simp
    rw [List.append_assoc, Markup.layout, tokens_gap hg starts, ← Markup.layout, laid,
      List.flatMap_append, List.map_append]
    exact placed ih

end Handoff
