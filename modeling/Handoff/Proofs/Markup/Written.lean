import Handoff.Proofs.Markup.Entry

/-! # Roots that are written from attributes

The value of an attribute stands between double quotes, single quotes or braces. A root that is
written from attributes is read back with these attributes, and with what stands inside, which may
be elements with the name of the root, too. A name has the value of its first attribute, of which
the quotes are no part.
-/

namespace Handoff.Markup

open Text

inductive Marks
  | double | single | braces

namespace Marks

def opening : Marks → Char
  | double => '"'
  | single => '\''
  | braces => '\x7b'

def closing : Marks → Char
  | double => '"'
  | single => '\''
  | braces => '\x7d'

theorem closingMark?_opening (marks : Marks) : closingMark? marks.opening = some marks.closing := by
  cases marks <;> rfl

end Marks

/-- An attribute that can be written in a tag, with a value that its marks and the tag leave
whole. -/
structure Written where
  name : List Char
  marks : Marks
  inner : List Char
  named : IsAttributeName name
  closed : marks.closing ∉ inner
  inside : '>' ∉ inner

namespace Written

def toAttribute (entry : Written) : Attribute :=
  ⟨entry.name, entry.marks.opening :: entry.inner ++ [entry.marks.closing]⟩

def plain (entry : Written) : List Char :=
  match entry.marks with
  | .double | .single => entry.inner
  | .braces => '\x7b' :: entry.inner ++ ['\x7d']

theorem plainValue_toAttribute (entry : Written) : entry.toAttribute.plainValue = entry.plain := by
  obtain ⟨name, marks, inner, -, -, -⟩ := entry
  cases marks <;> simp [toAttribute, plain, Attribute.plainValue, Marks.opening, Marks.closing]

theorem render_toAttribute (entry : Written) (rest : List Char) : entry.toAttribute.render ++ rest =
    [' '] ++ (entry.name ++ '=' :: entry.marks.opening ::
      (entry.inner ++ entry.marks.closing :: rest)) := by
  simp [toAttribute, Attribute.render]

def tail (entries : List Written) : List Char := renderAttributes (entries.map toAttribute)

theorem tail_cons (entry : Written) (entries : List Written) :
    tail (entry :: entries) = entry.toAttribute.render ++ tail entries := rfl

theorem attributes_tail (entries : List Written) :
    attributes (tail entries) = entries.map toAttribute := by
  induction entries with
  | nil => rfl
  | cons entry entries ih =>
    rw [tail_cons, render_toAttribute,
      attributes_gap (by decide) entry.named entry.marks.closingMark?_opening entry.closed, ih]
    rfl

/-! ## The tag -/

theorem free_render (entry : Written) : '>' ∉ entry.toAttribute.render := by
  have name : '>' ∉ entry.name := fun hm => absurd (entry.named.continues _ hm) (by decide)
  have marks : '>' ≠ entry.marks.opening ∧ '>' ≠ entry.marks.closing := by
    cases entry.marks <;> decide
  simp [toAttribute, Attribute.render, name, marks, entry.inside]

theorem free_tail (entries : List Written) : '>' ∉ tail entries := by
  induction entries with
  | nil => exact List.not_mem_nil
  | cons entry entries ih =>
    rw [tail_cons, List.mem_append, not_or]
    exact ⟨entry.free_render, ih⟩

theorem parted_tail (entries : List Written) : ∀ c ∈ (tail entries).head?, isWord c = false := by
  cases entries with
  | nil => simp [tail, renderAttributes]
  | cons entry entries =>
    rintro c ⟨⟩
    decide

/-- The tag does not close itself, since a mark stands at the end of its last attribute. -/
theorem waits_tail (entries : List Written) : (tail entries).getLast? ≠ some '/' := by
  rcases List.eq_nil_or_concat' entries with rfl | ⟨front, entry, rfl⟩
  · simp [tail, renderAttributes]
  · have mark : entry.marks.closing ≠ '/' := by cases entry.marks <;> decide
    have ends : tail (front ++ [entry]) = tail front ++ ' ' :: entry.name ++
        '=' :: entry.marks.opening ::
        entry.inner ++ [entry.marks.closing] := by
      simp [tail, renderAttributes, toAttribute, Attribute.render]
    rw [ends, List.getLast?_concat]
    exact fun same => mark (Option.some.inj same)

end Written

def writtenRoot (entries : List Written) (inner : List Char) : List Char :=
  "<svg".toList ++ renderAttributes (entries.map Written.toAttribute) ++
    '>' :: (inner ++ "</svg>".toList)

theorem splitRoot_writtenRoot (entries : List Written) (inner : List Char) :
    splitRoot (writtenRoot entries inner) = ⟨entries.map Written.toAttribute, trim inner⟩ := by
  have tag :=
    rootTag?_append (Written.free_tail entries) (Written.parted_tail entries) (inner ++ rootEnd)
  rw [← Written.attributes_tail]
  exact splitRoot_of_rootTag? tag (Written.waits_tail entries)

section Value

variable {entries front back : List Written} {entry : Written} {inner : List Char} {name : String}

theorem value?_of_first (first : ∀ earlier ∈ front, earlier.name ≠ entry.name) :
    Root.value? ⟨(front ++ entry :: back).map Written.toAttribute, inner⟩
      (String.ofList entry.name) =
      some entry.plain := by
  have passed : front.find? ((·.name == entry.name) ∘ Written.toAttribute) = none := by
    rw [List.find?_eq_none]
    exact fun earlier hm same => first earlier hm (eq_of_beq same)
  have taken : (entry :: back).find? ((·.name == entry.name) ∘ Written.toAttribute) = some entry :=
    List.find?_cons_of_pos (beq_self_eq_true entry.name)
  rw [Root.value?, String.toList_ofList, List.find?_map, List.find?_append, passed, taken,
    Option.none_or, Option.map_some, Option.map_some, Written.plainValue_toAttribute]

theorem value?_eq_none (absent : ∀ entry ∈ entries, entry.name ≠ name.toList) :
    Root.value? ⟨entries.map Written.toAttribute, inner⟩ name = none := by
  rw [Root.value?, List.find?_map, List.find?_eq_none.mpr]
  · rfl
  · exact fun entry hm same => absent entry hm (eq_of_beq same)

end Value

/-- A root is read back as it is written, if there is no space around what stands inside. The value
of a name is that of its first attribute, without quotes, and a name without attribute has none. -/
theorem splitRoot_written (entries : List Written) (inner : List Char)
    (first : ∀ c ∈ inner.head?, isSpace c = false)
      (last : ∀ c ∈ inner.getLast?, isSpace c = false) :
    splitRoot (writtenRoot entries inner) = ⟨entries.map Written.toAttribute, inner⟩ ∧
    (∀ front entry back, entries = front ++ entry :: back →
      (∀ earlier ∈ front, earlier.name ≠ entry.name) →
      (splitRoot (writtenRoot entries inner)).value? (String.ofList entry.name) =
        some entry.plain) ∧
    ∀ name : String, (∀ entry ∈ entries, entry.name ≠ name.toList) →
      (splitRoot (writtenRoot entries inner)).value? name = none := by
  have whole := splitRoot_writtenRoot entries inner
  rw [trim, trimBoth_eq_self first last] at whole
  rw [whole]
  refine ⟨rfl, ?_, fun name absent => value?_eq_none absent⟩
  rintro front entry back rfl earlier
  exact value?_of_first earlier

def iconEntries : List Written :=
  [⟨"class".toList, .double, "a='b' /".toList, by decide, by decide, by decide⟩,
   ⟨"fill".toList, .braces, "on ? \"a\" : 'b'".toList, by decide, by decide, by decide⟩,
   ⟨"class".toList, .single, "x=\"2\"".toList, by decide, by decide, by decide⟩]

theorem splitRoot_written_nested :
    writtenRoot iconEntries "<svg x=\"1\"><svg/></svg>".toList =
      "<svg class=\"a='b' /\" fill=\x7bon ? \"a\" : 'b'\x7d class='x=\"2\"'><svg x=\"1\"><svg/></svg></svg>".toList ∧
    splitRoot (writtenRoot iconEntries "<svg x=\"1\"><svg/></svg>".toList) =
      ⟨iconEntries.map Written.toAttribute, "<svg x=\"1\"><svg/></svg>".toList⟩ ∧
    (splitRoot (writtenRoot iconEntries "<svg x=\"1\"><svg/></svg>".toList)).value? "class" =
      some "a='b' /".toList ∧
    (splitRoot (writtenRoot iconEntries "<svg x=\"1\"><svg/></svg>".toList)).value? "width" =
      none := by
  obtain ⟨whole, present, absent⟩ :=
    splitRoot_written iconEntries "<svg x=\"1\"><svg/></svg>".toList (by decide) (by decide)
  exact ⟨by decide, whole, present [] _ _ rfl (by simp), absent "width" (by decide)⟩

end Handoff.Markup
