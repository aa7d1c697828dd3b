import Handoff.Proofs.Markup.Nesting
import Handoff.Proofs.Markup.Tree

/-! # Mixed content

In mixed content, texts and elements stand side by side in any order. Right behind a word an opening
tag is taken for an argument of a type and not seen, but the closing tag of the element is. So mixed
content is accepted unless this happens to an element with a closing tag.
-/

namespace Handoff.Markup

open Text

/-! ## Mixed content -/

/-- An attribute with its value in quotes of either kind, behind at least one space. -/
structure QuotedAttribute where
  gap : List Char
  name : List Char
  quote : Char
  value : List Char
  gap_ne_nil : gap ≠ []
  spaces : ∀ c ∈ gap, isSpace c = true
  name_ne_nil : name ≠ []
  named : ∀ c ∈ name, namesAttribute c = true
  quotes : quote = '"' ∨ quote = '\''
  unquoted : quote ∉ value
  free : ∀ c ∈ value, c ≠ '<' ∧ c ≠ '>'

def QuotedAttribute.render (entry : QuotedAttribute) : List Char :=
  entry.gap ++ entry.name ++ '=' :: entry.quote :: entry.value ++ [entry.quote]

structure StartTag where
  lead : List Char
  name : List Char
  attributes : List QuotedAttribute
  gap : List Char
  unopened : '<' ∉ lead
  named : IsTagName name
  spaces : ∀ c ∈ gap, isSpace c = true

def StartTag.tail (start : StartTag) : List Char :=
  start.attributes.flatMap QuotedAttribute.render ++ start.gap

/-- Elements with texts around them. An element without content is one of those that have no closing
tag, or it is written with a slash. -/
inductive Mixed
  | text (content : List Char) (unopened : '<' ∉ content)
  | void (start : StartTag) (unclosed : isVoid start.name = true) (rest : Mixed)
  | empty (start : StartTag) (rest : Mixed)
  | element (start : StartTag) (children rest : Mixed)

namespace Mixed

def render : Mixed → List Char
  | .text content _ => content
  | .void start _ rest => start.lead ++ ('<' :: start.name ++ start.tail ++ ['>']) ++ rest.render
  | .empty start rest =>
    start.lead ++ ('<' :: start.name ++ (start.tail ++ ['/']) ++ ['>']) ++ rest.render
  | .element start children rest =>
    start.lead ++ ('<' :: start.name ++ start.tail ++ ['>']) ++ children.render ++
      ("</".toList ++ start.name ++ ['>']) ++ rest.render

def paired : Mixed → List StartTag
  | .text _ _ => []
  | .void _ _ rest => rest.paired
  | .empty _ rest => rest.paired
  | .element start children rest => start :: children.paired ++ rest.paired

end Mixed

/-! ## Start tags -/

theorem QuotedAttribute.isOpenTail (entry : QuotedAttribute) : IsOpenTail entry.render :=
  isOpenTail_attribute entry.spaces entry.gap_ne_nil entry.name_ne_nil entry.named
    entry.quotes entry.free

namespace StartTag

theorem isOpenTail (start : StartTag) : IsOpenTail start.tail := by
  have entries (entries : List QuotedAttribute) :
      IsOpenTail (entries.flatMap QuotedAttribute.render) := by
    induction entries with
    | nil => exact isOpenTail_nil
    | cons entry entries ih => exact entry.isOpenTail.append ih
  exact (entries start.attributes).append (isOpenTail_spaces start.spaces)

def Counts (start : StartTag) : Prop := Opens start.lead.getLast? ∧ isVoid start.name = false

instance (start : StartTag) : Decidable start.Counts :=
  inferInstanceAs (Decidable (_ ∧ _))

/-- Behind a word a start tag is not seen, and elsewhere it has its mark. -/
theorem spells (start : StartTag) (tail : List Char) (h : IsTagTail tail) :
    Spells false (start.lead ++ ('<' :: start.name ++ tail ++ ['>']))
      (if Opens start.lead.getLast? then openingMarks false start.name tail else []) := by
  have opened :
      Spells false ('<' :: start.name ++ tail ++ ['>']) (openingMarks false start.name tail) :=
    spells_opening start.named h
  split
  case isTrue opens =>
    rcases eq_or_ne start.lead [] with empty | ne
    · rwa [empty, List.nil_append]
    · exact (spellsAnywhere_of_not_mem start.unopened).spells.append opened ne opens
  case isFalse glued =>
    obtain ⟨last, behind, word⟩ : ∃ last, start.lead.getLast? = some last ∧
      allowsTag last = false := by
      simpa [Opens] using glued
    obtain ⟨first, name, hn⟩ := List.exists_cons_of_ne_nil start.named.ne_nil
    have letter : first.isAlpha = true := start.named.first first (by simp [hn])
    have free : '<' ∉ start.name ++ tail ++ ['>'] := by
      have hm : '<' ∉ start.name := start.named.not_mem (by decide)
      have ht : '<' ∉ tail := fun hc => (h.free _ hc).1 rfl
      simp [hm, ht]
    have ahead : (start.name ++ tail ++ ['>']).head? = some first := by simp [hn]
    refine (spellsAnywhere_glued start.unopened free behind word ahead ?_).spells
    rintro rfl
    exact absurd letter (by decide)

theorem spells_paired (start : StartTag) :
    Spells false (start.lead ++ ('<' :: start.name ++ start.tail ++ ['>']))
      (if start.Counts then [⟨false, start.name⟩] else []) := by
  have marked := start.spells start.tail start.isOpenTail.toIsTagTail
  have waits := start.isOpenTail.waits
  convert marked using 1
  by_cases opens : Opens start.lead.getLast? <;> cases closed : isVoid start.name <;>
    simp [Counts, openingMarks, opens, closed, waits]

end StartTag

namespace Mixed

def marks : Mixed → List Mark
  | .text _ _ => []
  | .void _ _ rest => rest.marks
  | .empty _ rest => rest.marks
  | .element start children rest =>
    (if start.Counts then [⟨false, start.name⟩] else []) ++ children.marks ++
      [⟨true, start.name⟩] ++
      rest.marks

theorem spells (mixed : Mixed) : Spells false mixed.render mixed.marks := by
  have opens {text : List Char} : Opens (text ++ ['>']).getLast? := by
    rw [List.getLast?_concat]
    decide
  have behind {lead body : List Char} {m n : List Mark} {rest : List Char}
      (h : Spells false (lead ++ (body ++ ['>'])) m) (hr : Spells false rest n) :
      Spells false (lead ++ (body ++ ['>']) ++ rest) (m ++ n) := by
    rw [← List.append_assoc] at h ⊢
    exact h.append hr (by simp) opens
  induction mixed with
  | text content unopened => exact (spellsAnywhere_of_not_mem unopened).spells
  | void start unclosed rest ih =>
    have unseen := start.spells start.tail start.isOpenTail.toIsTagTail
    have none : openingMarks false start.name start.tail = [] := by simp [openingMarks, unclosed]
    rw [none, ite_self] at unseen
    exact behind unseen ih
  | empty start rest ih =>
    have unseen :=
      start.spells (start.tail ++ ['/']) (start.isOpenTail.toIsTagTail.append isTagTail_slash)
    have none : openingMarks false start.name (start.tail ++ ['/']) = [] := by simp [openingMarks]
    rw [none, ite_self] at unseen
    exact behind unseen ih
  | element start children rest inside after =>
    have content := behind start.spells_paired inside
    have closed : Spells false _ _ := content.append_anywhere (spellsAnywhere_closing start.named)
    exact behind closed after

theorem length_closing (mixed : Mixed) :
    mixed.marks.countP (·.closing) = mixed.paired.length := by
  induction mixed with
  | text => rfl
  | void _ _ rest ih => exact ih
  | empty _ rest ih => exact ih
  | element start children rest inside after =>
    have opened : (if start.Counts then [⟨false, start.name⟩] else []).countP Mark.closing = 0 := by
      split <;> rfl
    simp only [marks, paired, List.countP_append, opened, inside, after, List.countP_singleton,
      List.length_append, List.length_cons, if_true]
    omega

theorem length_opening (mixed : Mixed) :
    mixed.marks.countP (!·.closing) = mixed.paired.countP (·.Counts) := by
  induction mixed with
  | text => rfl
  | void _ _ rest ih => exact ih
  | empty _ rest ih => exact ih
  | element start children rest inside after =>
    have opened : (if start.Counts then [⟨false, start.name⟩] else []).countP (!Mark.closing ·) =
        if start.Counts then 1 else 0 := by
      split <;> rfl
    simp only [marks, paired, List.countP_append, opened, inside, after, List.countP_cons,
      List.countP_nil, List.cons_append, decide_eq_true_eq]
    simp only [Bool.not_true, Bool.false_eq_true, if_false]
    omega

theorem balanced_iff (mixed : Mixed) :
    Balanced mixed.marks ↔ ∀ start ∈ mixed.paired, start.Counts := by
  constructor
  · intro balanced
    -- closing tags are always seen, so that a start tag that is not would be missed among as many
    -- marks
    have counts : mixed.paired.countP (·.Counts) = mixed.paired.length := by
      rw [← length_opening, ← length_closing, balanced.countP]
    simpa using List.countP_eq_length.mp counts
  · intro counts
    induction mixed with
    | text => exact .nil
    | void _ _ rest ih => exact ih counts
    | empty _ rest ih => exact ih counts
    | element start children rest inside after =>
      obtain ⟨first, others⟩ := List.forall_mem_cons.mp counts
      obtain ⟨within, behind⟩ := List.forall_mem_append.mp others
      rw [marks, if_pos first]
      simpa using Balanced.element start.name (inside within) (after behind)

end Mixed

/-- Mixed content is accepted, outside of code, if and only if no text right before an element with
a closing tag ends in a word, in a point or dollar sign, or in a closing parenthesis or bracket, and
no such element is one of those that have no closing tag. -/
theorem mixed_accepted_iff (checkAttributes : Bool) (mixed : Mixed) :
    checkTags false checkAttributes mixed.render = [] ↔
      ∀ start ∈ mixed.paired, Opens start.lead.getLast? ∧ isVoid start.name = false := by
  rw [checkTags_markup_eq_nil_iff, mixed.spells.marks_eq]
  exact mixed.balanced_iff

/-- A closing tag is reported whose start tag stands right behind a word. -/
theorem start_behind_word_unseen :
    ∃ mixed : Mixed, (∀ start ∈ mixed.paired, isVoid start.name = false) ∧
      mixed.render = "<p>a<b></b></p>".toList ∧ checkTags false true mixed.render ≠ [] := by
  let outer : StartTag := ⟨[], ['p'], [], [], by decide, by decide, by decide⟩
  let inner : StartTag := ⟨['a'], ['b'], [], [], by decide, by decide, by decide⟩
  let none : Mixed := .text [] (by decide)
  refine ⟨.element outer (.element inner none none) none, ?_⟩
  decide +kernel

end Handoff.Markup
