import Handoff.Markup.Root
import Handoff.Proofs.Markup.Woven

/-! # Trees of elements

A document is a root with a forest of texts and elements in it. Attributes and elements carry the
proofs that they can be written down, so that each tree renders to a woven text, and its marks are
balanced.
-/

namespace Handoff.Markup

open Text

/-! ## Attributes -/

structure IsAttributeName (name : List Char) : Prop where
  ne_nil : name ≠ []
  first : ∀ c ∈ name.head?, startsAttribute c = true
  continues : ∀ c ∈ name, continuesAttribute c = true

instance (name : List Char) : Decidable (IsAttributeName name) :=
  decidable_of_iff (name ≠ [] ∧ (∀ c ∈ name.head?, startsAttribute c = true) ∧
      ∀ c ∈ name, continuesAttribute c = true)
    ⟨fun ⟨ne, first, continues⟩ => ⟨ne, first, continues⟩, fun h =>
      ⟨h.ne_nil, h.first, h.continues⟩⟩

/-- A value that can stand in double quotes in a tag. -/
structure IsValue (value : List Char) : Prop where
  quote : '"' ∉ value
  opening : '<' ∉ value
  closing : '>' ∉ value

instance (value : List Char) : Decidable (IsValue value) :=
  decidable_of_iff ('"' ∉ value ∧ '<' ∉ value ∧ '>' ∉ value)
    ⟨fun ⟨quote, opening, closing⟩ => ⟨quote, opening, closing⟩,
      fun h => ⟨h.quote, h.opening, h.closing⟩⟩

theorem IsValue.mapNames {f : List Char → List Char} {value : List Char} (hf : KeepsNames f)
    (h : IsValue value) : IsValue (mapNames f value) :=
  ⟨not_mem_mapNames hf (by decide) h.quote, not_mem_mapNames hf (by decide) h.opening,
    not_mem_mapNames hf (by decide) h.closing⟩

/-- An attribute with its value in double quotes, behind at least one space. -/
structure Assignment where
  gap : List Char
  name : List Char
  value : List Char
  gap_ne_nil : gap ≠ []
  spaces : ∀ c ∈ gap, isSpace c = true
  named : IsAttributeName name
  quotable : IsValue value

def Assignment.render (entry : Assignment) : List Char :=
  entry.gap ++ entry.name ++ '=' :: '"' :: entry.value ++ ['"']

/-- What stands in an opening tag behind the name: attributes, and perhaps some spaces. -/
structure Head where
  entries : List Assignment
  gap : List Char
  spaces : ∀ c ∈ gap, isSpace c = true

def Head.render (head : Head) : List Char := head.entries.flatMap Assignment.render ++ head.gap

variable {jsx : Bool} {gap name rest text x y : List Char} {c : Char}

theorem continuesTagName_of_isSpace (h : isSpace c = true) : continuesTagName c = false := by
  by_contra hc
  simp only [continuesTagName, isWord_of_isSpace h, Bool.false_or, Bool.not_eq_false,
    Bool.or_eq_true, beq_iff_eq] at hc
  rcases hc with (rfl | rfl) | rfl <;> exact absurd h (by decide)

theorem isSpace_of_startsAttribute (h : startsAttribute c = true) : isSpace c = false := by
  simp only [startsAttribute, Bool.or_eq_true, beq_iff_eq] at h
  rcases h with (h | rfl) | rfl
  · exact not_isSpace_of_isAlphanum (by simp [Char.isAlphanum, h])
  · decide
  · decide

theorem unbracketed_of_isSpace (h : isSpace c = true) : c ≠ '<' ∧ c ≠ '>' := by
  constructor <;> rintro rfl <;> exact absurd h (by decide)

/-! ## What stands in an opening tag -/

theorem isTagTail_slash : IsTagTail ['/'] := ⟨by decide, by decide, rfl, by decide⟩

theorem IsTagTail.append (hx : IsTagTail x) (hy : IsTagTail y) : IsTagTail (x ++ y) where
  free := List.forall_mem_append.mpr ⟨hx.free, hy.free⟩
  parted := by
    cases x with
    | nil => exact hy.parted
    | cons c x => exact hx.parted
  unassigned := isAssigned_append hx.unassigned hy.unassigned
  last := by
    rw [List.getLast?_append]
    cases h : y.getLast? with
    | none => exact hx.last
    | some c => exact fun hc => hy.last (h.trans hc)

/-! ## Tags that stay open -/

/-- What stands behind the name in a tag that does not close itself. -/
structure IsOpenTail (tail : List Char) : Prop extends IsTagTail tail where
  waits : tail.getLast? ≠ some '/'

instance (tail : List Char) : Decidable (IsOpenTail tail) :=
  decidable_of_iff (IsTagTail tail ∧ tail.getLast? ≠ some '/')
    ⟨fun h => ⟨h.1, h.2⟩, fun h => ⟨h.toIsTagTail, h.waits⟩⟩

theorem IsOpenTail.append (hx : IsOpenTail x) (hy : IsOpenTail y) : IsOpenTail (x ++ y) := by
  refine ⟨hx.toIsTagTail.append hy.toIsTagTail, ?_⟩
  rw [List.getLast?_append]
  cases h : y.getLast? with
  | none => exact hx.waits
  | some c => exact fun hc => hy.waits (h.trans hc)

theorem IsOpenTail.mapNames {f : List Char → List Char} (hf : KeepsNames f) (h : IsOpenTail x) :
    IsOpenTail (mapNames f x) :=
  ⟨h.toIsTagTail.mapNames hf, by rw [getLast?_mapNames]; exact h.waits⟩

/-- Anything without brackets may go on what stands in a tag, if that is more than spaces. -/
theorem IsOpenTail.extend (h : IsOpenTail x) (solid : ∃ c ∈ x, isSpace c = false)
    (free : ∀ c ∈ y, c ≠ '<' ∧ c ≠ '>') (last : ∀ c ∈ y.getLast?, c ≠ '=' ∧ c ≠ '/') :
    IsOpenTail (x ++ y) := by
  have ends : (x ++ y).getLast? ≠ some '=' ∧ (x ++ y).getLast? ≠ some '/' := by
    rw [List.getLast?_append]
    cases hl : y.getLast? with
    | none => exact ⟨h.last, h.waits⟩
    | some c =>
      obtain ⟨equals, slash⟩ := last c hl
      exact ⟨fun hc => equals (Option.some.inj hc), fun hc => slash (Option.some.inj hc)⟩
  refine ⟨⟨List.forall_mem_append.mpr ⟨h.free, free⟩, ?_, ?_, ends.1⟩, ends.2⟩
  · obtain ⟨c, hc, -⟩ := solid
    rw [List.head?_append_of_ne_nil _ (List.ne_nil_of_mem hc)]
    exact h.parted
  · rw [isAssigned_append_of_solid solid, h.unassigned]

/-- Anything without brackets may stand between two parts that fit. -/
theorem isOpenTail_around {a s b : String} (ha : IsOpenTail a.toList)
    (solid : ∃ c ∈ a.toList, isSpace c = false) (free : ∀ c ∈ s.toList, c ≠ '<' ∧ c ≠ '>')
    (hb : IsOpenTail b.toList) (ne : b.toList ≠ []) : IsOpenTail (a ++ s ++ b).toList := by
  rw [String.toList_append, String.toList_append, List.append_assoc]
  refine ha.extend solid (List.forall_mem_append.mpr ⟨free, hb.free⟩) fun c hc => ?_
  rw [List.getLast?_append_of_ne_nil _ ne, Option.mem_def] at hc
  exact ⟨fun he => hb.last (he ▸ hc), fun he => hb.waits (he ▸ hc)⟩

theorem IsOpenTail.isTag (hn : IsTagName name) (ht : IsOpenTail x)
    (closed : jsx = true ∨ isVoid name = false) :
    IsTag jsx ('<' :: name ++ x ++ ['>']) [⟨false, name⟩] := by
  have counts : (!jsx && isVoid name) = false := by
    rcases closed with rfl | h
    · rfl
    · rw [h, Bool.and_false]
  have mark : openingMarks jsx name x = [⟨false, name⟩] := by simp [openingMarks, counts, ht.waits]
  exact mark ▸ .opening hn ht.toIsTagTail

theorem isOpenTail_nil : IsOpenTail [] := by decide

theorem isOpenTail_spaces (h : ∀ c ∈ gap, isSpace c = true) : IsOpenTail gap where
  free c hc := unbracketed_of_isSpace (h c hc)
  parted c hc := continuesTagName_of_isSpace (h c (List.mem_of_head? hc))
  unassigned := isAssigned_spaces h
  last hl := absurd (h _ (List.mem_of_getLast? hl)) (by decide)
  waits hl := absurd (h _ (List.mem_of_getLast? hl)) (by decide)

theorem unbracketed_of_continuesAttribute (h : continuesAttribute c = true) :
    c ≠ '<' ∧ c ≠ '>' := by
  constructor <;> rintro rfl <;> exact absurd h (by decide)

/-- Whether a character can stand in the name of an attribute, whatever the dialect. -/
def namesAttribute (c : Char) : Bool :=
  !(isSpace c || ['<', '>', '/', '=', '"', '\''].contains c)

theorem namesAttribute_of_continuesAttribute (h : continuesAttribute c = true) :
    namesAttribute c = true := by
  by_contra hc
  simp only [namesAttribute, Bool.not_eq_true', Bool.not_eq_false, Bool.or_eq_true,
    List.contains_iff_mem, List.mem_cons, List.not_mem_nil, or_false] at hc
  rcases hc with space | rfl | rfl | rfl | rfl | rfl | rfl
  · simp only [continuesAttribute, isWord_of_isSpace space, Bool.false_or, Bool.or_eq_true,
      beq_iff_eq] at h
    rcases h with (rfl | rfl) | rfl <;> exact absurd space (by decide)
  all_goals exact absurd h (by decide)

theorem isOpenTail_attribute {quote : Char} {value : List Char}
    (spaces : ∀ c ∈ gap, isSpace c = true) (gap_ne_nil : gap ≠ []) (ne : name ≠ [])
    (named : ∀ c ∈ name, namesAttribute c = true) (quotes : quote = '"' ∨ quote = '\'')
    (free : ∀ c ∈ value, c ≠ '<' ∧ c ≠ '>') :
    IsOpenTail (gap ++ name ++ '=' :: quote :: value ++ [quote]) := by
  have quoted : (quote ≠ '<' ∧ quote ≠ '>') ∧ quote ≠ '=' ∧ quote ≠ '/' := by
    rcases quotes with rfl | rfl <;> decide
  have apart (d : Char) (hd : namesAttribute d = false) : ∀ c ∈ name, c ≠ d := by
    rintro c hc rfl
    exact absurd (named c hc) (ne_true_of_eq_false hd)
  have last : (gap ++ name ++ '=' :: quote :: value ++ [quote]).getLast? = some quote := by
    rw [List.getLast?_append]
    rfl
  refine ⟨⟨?_, ?_, ?_, ?_⟩, ?_⟩
  · have bare : ∀ c ∈ name, c ≠ '<' ∧ c ≠ '>' := fun c hc =>
      ⟨apart '<' (by decide) c hc, apart '>' (by decide) c hc⟩
    simp only [List.forall_mem_append, List.forall_mem_cons]
    exact ⟨⟨⟨(isOpenTail_spaces spaces).free, bare⟩, by decide, quoted.1, free⟩, quoted.1, by simp⟩
  · rw [List.append_assoc, List.append_assoc, List.head?_append_of_ne_nil _ gap_ne_nil]
    exact (isOpenTail_spaces spaces).parted
  · obtain ⟨c, name, rfl⟩ := List.exists_cons_of_ne_nil ne
    have first := named c (by simp)
    have solid : isSpace c = false := by
      simp only [namesAttribute, Bool.not_eq_true', Bool.or_eq_false_iff] at first
      exact first.1
    rw [List.append_assoc, List.append_assoc, isAssigned_append_of_spaces spaces, List.cons_append,
      isAssigned_cons solid]
    exact beq_false_of_ne (apart '=' (by decide) c (by simp))
  · rw [last]
    exact fun he => quoted.2.1 (Option.some.inj he)
  · rw [last]
    exact fun he => quoted.2.2 (Option.some.inj he)

theorem Assignment.isOpenTail (entry : Assignment) : IsOpenTail entry.render := by
  obtain ⟨gap, name, value, ne, spaces, named, quotable⟩ := entry
  refine isOpenTail_attribute spaces ne named.ne_nil ?_ (.inl rfl) fun c hc => ?_
  · exact fun c hc => namesAttribute_of_continuesAttribute (named.continues c hc)
  · exact ⟨ne_of_mem_of_not_mem hc quotable.opening, ne_of_mem_of_not_mem hc quotable.closing⟩

theorem isOpenTail_entries (entries : List Assignment) :
    IsOpenTail (entries.flatMap Assignment.render) := by
  induction entries with
  | nil => exact isOpenTail_nil
  | cons entry entries ih => exact entry.isOpenTail.append ih

theorem Head.isOpenTail (head : Head) : IsOpenTail head.render :=
  (isOpenTail_entries head.entries).append (isOpenTail_spaces head.spaces)

theorem Head.isTagTail (head : Head) : IsTagTail head.render := head.isOpenTail.toIsTagTail

/-! ## Elements -/

/-- Texts and elements side by side. An element without content may be written with a slash. -/
inductive Forest
  | nil
  | text (content : List Char) (free : '<' ∉ content) (rest : Forest)
  | empty (name : List Char) (named : IsTagName name) (head : Head) (rest : Forest)
  | element (name : List Char) (named : IsTagName name) (head : Head) (children rest : Forest)

namespace Forest

def render : Forest → List Char
  | .nil => []
  | .text content _ rest => content ++ rest.render
  | .empty name _ head rest => '<' :: name ++ (head.render ++ ['/']) ++ ['>'] ++ rest.render
  | .element name _ head children rest =>
    '<' :: name ++ head.render ++ ['>'] ++
      (children.render ++ ("</".toList ++ name ++ ['>'] ++ rest.render))

def marks : Forest → List Mark
  | .nil => []
  | .text _ _ rest => rest.marks
  | .empty _ _ _ rest => rest.marks
  | .element name _ _ children rest => ⟨false, name⟩ :: children.marks ++ ⟨true, name⟩ :: rest.marks

def names : Forest → List (List Char)
  | .nil => []
  | .text _ _ rest => rest.names
  | .empty name _ _ rest => name :: rest.names
  | .element name _ _ children rest => name :: children.names ++ rest.names

theorem balanced (forest : Forest) : Balanced forest.marks := by
  induction forest with
  | nil => exact .nil
  | text _ _ _ ih => exact ih
  | empty _ _ _ _ ih => exact ih
  | element name _ _ _ _ children rest => exact .element name children rest

theorem woven (forest : Forest) (closed : jsx = true ∨ ∀ name ∈ forest.names, isVoid name = false) :
    Woven jsx forest.render forest.marks := by
  induction forest with
  | nil => exact .text (by simp [render])
  | text content free rest ih => exact (ih closed).lead free
  | empty name named head rest ih =>
    have slash : openingMarks jsx name (head.render ++ ['/']) = [] := by simp [openingMarks]
    have tag : IsTag jsx ('<' :: name ++ (head.render ++ ['/']) ++ ['>']) [] :=
      slash ▸ .opening named (head.isTagTail.append isTagTail_slash)
    refine tag.woven (ih (closed.imp_right fun h other ho => h other ?_))
    exact List.mem_cons_of_mem name ho
  | element name named head children rest inside behind =>
    have tag : IsTag jsx ('<' :: name ++ head.render ++ ['>']) [⟨false, name⟩] :=
      head.isOpenTail.isTag named (closed.imp_right fun h => h name (by simp [names]))
    have within := inside (closed.imp_right fun h other ho => h other (by simp [names, ho]))
    have after := behind (closed.imp_right fun h other ho => h other (by simp [names, ho]))
    exact tag.woven (within.append ((IsTag.closing named).woven after))

end Forest

/-! ## Documents -/

/-- A document: the attributes of its root and, unless the root is written with a slash, what stands
in it. -/
structure Document where
  head : Head
  content : Option Forest

def rootName : List Char := "svg".toList

theorem isTagName_rootName : IsTagName rootName := by decide

namespace Document

def forest (document : Document) : Forest :=
  match document.content with
  | none => .empty rootName isTagName_rootName document.head .nil
  | some children => .element rootName isTagName_rootName document.head children .nil

def render (document : Document) : List Char := document.forest.render

def names (document : Document) : List (List Char) := document.forest.names

end Document

def labelledDocument : Document where
  head := ⟨[⟨[' '], "width".toList, "24".toList, by decide, by decide, by decide, by decide⟩], [],
    by decide⟩
  content := some (.element "g".toList (by decide) ⟨[], [], by decide⟩
    (.text "Hi".toList (by decide) (.empty "rect".toList (by decide) ⟨[], [], by decide⟩ .nil))
      .nil)

example : labelledDocument.render = "<svg width=\"24\"><g>Hi<rect/></g></svg>".toList := by decide

end Handoff.Markup
