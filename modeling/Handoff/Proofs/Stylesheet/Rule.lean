import Handoff.Proofs.Component.Reference
import Handoff.Proofs.Stylesheet.Generated

/-! # The rules of a generated stylesheet

A line opens a rule for a class if it starts with the class and has an opening brace behind it. All
such lines in the stylesheet of a component are for the class of the component: the others start
with something else, the colors of the palette among them.
-/

namespace Handoff.Stylesheet

open Text Component

def ruleClass? (line : List Char) : Option (List Char) :=
  match line.dropWhile isSpace with
  | '.' :: selector => if '\x7b' ∈ selector then some (selector.takeWhile isClassChar) else none
  | _ => none

def ruleClasses (sheet : String) : List (List Char) := (lines sheet.toList).filterMap ruleClass?

variable {cls : String} {palette : List String} {front line : List Char} {c : Char}

theorem mem_ruleClasses_text {found : List Char} {sheet : List String} :
    found ∈ ruleClasses (text sheet) ↔
      ∃ line ∈ sheet, ∃ piece ∈ lines line.toList, ruleClass? piece = some found := by
  have last : ruleClass? [] = none := rfl
  rw [ruleClasses, lines_text, List.filterMap_append, List.filterMap_cons_none last,
    List.filterMap_nil, List.append_nil, List.mem_filterMap]
  simp only [List.mem_flatMap]
  constructor
  · rintro ⟨piece, ⟨line, hl, hp⟩, opens⟩
    exact ⟨line, hl, piece, hp, opens⟩
  · rintro ⟨line, hl, piece, hp, opens⟩
    exact ⟨piece, ⟨line, hl, hp⟩, opens⟩

theorem ruleClass?_class (classed : ∀ c ∈ cls.toList, isClassChar c = true)
    (spaces : ∀ c ∈ front, isSpace c = true) {rest : List Char}
    (ends : ∀ c ∈ rest.head?, isClassChar c = false) (opens : '\x7b' ∈ rest) :
    ruleClass? (front ++ '.' :: (cls.toList ++ rest)) = some cls.toList := by
  have point : isSpace '.' = false := by decide
  have behind : (front ++ '.' :: (cls.toList ++ rest)).dropWhile isSpace =
      '.' :: (cls.toList ++ rest) := by
    rw [List.dropWhile_append_of_pos spaces]
    simp [point]
  have name : (cls.toList ++ rest).takeWhile isClassChar = cls.toList := by
    rw [List.takeWhile_append_of_pos classed]
    cases rest with
    | nil => simp
    | cons c rest => simp [ends c rfl]
  rw [ruleClass?, behind]
  simp [name, opens]

/-- Whether the first mark in a text is none of a class. -/
def leadsElsewhere (lead : List Char) : Bool := (lead.dropWhile isSpace).head?.any (· != '.')

theorem ruleClass?_elsewhere {lead : List Char} (h : leadsElsewhere lead = true)
    (rest : List Char) :
    ruleClass? (lead ++ rest) = none := by
  cases first : lead.dropWhile isSpace with
  | nil => simp [leadsElsewhere, first] at h
  | cons c behind =>
    have other : c ≠ '.' := by simpa [leadsElsewhere, first] using h
    have found : (lead ++ rest).dropWhile isSpace = c :: (behind ++ rest) := by
      rw [List.dropWhile_append, first]
      rfl
    rw [ruleClass?, found]
    split
    case h_1 selector same => exact absurd (List.cons.inj same).1 other
    case h_2 => rfl

/-- A line opens rules for no other class than the given one. -/
def Keeps (cls line : String) : Prop :=
  ∀ piece ∈ lines line.toList, ∀ found ∈ ruleClass? piece, found = cls.toList

theorem keeps_of_not_mem {line : String} (free : '\n' ∉ line.toList)
    (h : ∀ found ∈ ruleClass? line.toList, found = cls.toList) : Keeps cls line := by
  intro piece hp
  rw [lines, pieces_of_not_mem free, List.mem_singleton] at hp
  rw [hp]
  exact h

theorem keeps_elsewhere {lead rest : String} (h : leadsElsewhere lead.toList = true)
    (free : Markup.Lacks '\n' (lead ++ rest)) : Keeps cls (lead ++ rest) := by
  refine keeps_of_not_mem free ?_
  rw [String.toList_append, ruleClass?_elsewhere h]
  simp

theorem keeps_fixed {line : String}
    (h : leadsElsewhere line.toList = true ∧ Markup.Lacks '\n' line) :
    Keeps cls line := by
  have kept : Keeps cls (line ++ "") := keeps_elsewhere h.1 (by rw [String.append_empty]; exact h.2)
  rwa [String.append_empty] at kept

theorem keeps_empty : Keeps cls "" := keeps_of_not_mem (by decide) (by simp [ruleClass?])

section Sheets

variable (classed : ∀ c ∈ cls.toList, isClassChar c = true)

include classed

theorem lacks_newline_class : Markup.Lacks '\n' cls := fun hm => absurd (classed _ hm) (by decide)

theorem ruleClass?_line {lead back : String} (leads : lead = "." ∨ lead = "  .")
    (ends : back = " \x7b" ∨ back = " svg \x7b") :
    ruleClass? (lead ++ cls ++ back).toList = some cls.toList ∧
    Markup.Lacks '\n' (lead ++ cls ++ back) := by
  have spaced : ∃ front : List Char, (∀ c ∈ front, isSpace c = true) ∧
      lead.toList = front ++ ['.'] ∧
      Markup.Lacks '\n' lead := by
    rcases leads with rfl | rfl
    · exact ⟨[], by simp, rfl, by decide⟩
    · exact ⟨"  ".toList, by decide, rfl, by decide⟩
  have closed : (∀ c ∈ back.toList.head?, isClassChar c = false) ∧ '\x7b' ∈ back.toList ∧
      Markup.Lacks '\n' back := by
    rcases ends with rfl | rfl <;> exact ⟨by decide, by decide, by decide⟩
  obtain ⟨front, spaces, start, free⟩ := spaced
  refine ⟨?_, (free.append (lacks_newline_class classed)).append closed.2.2⟩
  have split : (lead ++ cls ++ back).toList = front ++ '.' :: (cls.toList ++ back.toList) := by
    rw [String.toList_append, String.toList_append, start]
    simp
  rw [split]
  exact ruleClass?_class classed spaces closed.1 closed.2.1

theorem keeps_line {lead back : String} (leads : lead = "." ∨ lead = "  .")
    (ends : back = " \x7b" ∨ back = " svg \x7b") : Keeps cls (lead ++ cls ++ back) := by
  obtain ⟨opens, free⟩ := ruleClass?_line classed leads ends
  refine keeps_of_not_mem free ?_
  rw [opens]
  simp

theorem mem_ruleClasses_line {lead back : String} (leads : lead = "." ∨ lead = "  .")
    (ends : back = " \x7b" ∨ back = " svg \x7b") {sheet : List String}
    (h : lead ++ cls ++ back ∈ sheet) : cls.toList ∈ ruleClasses (text sheet) := by
  obtain ⟨opens, free⟩ := ruleClass?_line classed leads ends
  refine mem_ruleClasses_text.mpr ⟨_, h, _, ?_, opens⟩
  rw [lines, pieces_of_not_mem free]
  exact List.mem_singleton_self _

theorem keeps_around {lead back : String} (elsewhere : leadsElsewhere lead.toList = true)
    (front : Markup.Lacks '\n' lead) (behind : Markup.Lacks '\n' back) :
    Keeps cls (lead ++ cls ++ back) := by
  have free := (front.append (lacks_newline_class classed)).append behind
  rw [String.append_assoc] at free ⊢
  exact keeps_elsewhere elsewhere free

theorem keeps_color {lead : String} (elsewhere : leadsElsewhere lead.toList = true)
    (front : Markup.Lacks '\n' lead) (colors : ∀ color ∈ palette, Markup.Lacks '\n' color)
    {entry : Nat × String} (h : entry ∈ numbered palette) :
    Keeps cls (lead ++ cls ++ "-color-" ++ entry.1.repr ++ ": " ++ entry.2 ++ ";") := by
  have digits : Markup.Lacks '\n' entry.1.repr := fun hm =>
    absurd (isClassChar_repr _ _ hm) (by decide)
  have plain : Markup.Lacks '\n' ("-color-" ++ (entry.1.repr ++ (": " ++ (entry.2 ++ ";")))) :=
    .append (by decide) (digits.append (.append (by decide)
      ((colors entry.2 (mem_of_mem_numbered h)).append (by decide))))
  have kept := keeps_around classed elsewhere front plain
  simpa only [String.append_assoc] using kept

theorem keeps_css (colors : ∀ color ∈ palette, Markup.Lacks '\n' color) :
    ∀ line ∈ cssLines cls palette, Keeps cls line := by
  have lead : leadsElsewhere "  --".toList = true := by decide
  have color : ∀ entry ∈ numbered palette, Keeps cls s!"  --{cls}-color-{entry.1}: {entry.2};" :=
    fun entry he => keeps_color classed lead (by decide) colors he
  simp only [cssLines, List.forall_mem_append, List.forall_mem_cons, List.forall_mem_map,
    List.not_mem_nil, false_implies, implies_true, and_true]
  refine ⟨⟨⟨keeps_line classed (.inl rfl) (.inl rfl), ?_, ?_⟩, color⟩, ?_, keeps_empty,
    keeps_line classed (.inl rfl) (.inr rfl), ?_, ?_, ?_, keeps_empty, ?_,
    keeps_line classed (.inr rfl) (.inl rfl), ?_, ?_, ?_⟩
  all_goals exact keeps_fixed (by decide)

theorem keeps_scss (colors : ∀ color ∈ palette, Markup.Lacks '\n' color) :
    ∀ line ∈ scssLines cls palette, Keeps cls line := by
  have lead : leadsElsewhere "$".toList = true := by decide
  have color : ∀ entry ∈ numbered palette, Keeps cls s!"${cls}-color-{entry.1}: {entry.2};" :=
    fun entry he => keeps_color classed lead (by decide) colors he
  simp only [scssLines, List.forall_mem_append, List.forall_mem_cons, List.forall_mem_map,
    List.not_mem_nil, false_implies, implies_true, and_true]
  refine ⟨⟨keeps_around classed (by decide) (by decide) (by decide), color⟩, keeps_empty,
    keeps_line classed (.inl rfl) (.inl rfl), ?_, ?_, keeps_empty, ?_, ?_, ?_, ?_, keeps_empty,
    keeps_around classed (by decide) (by decide) (by decide), ?_, ?_, ?_⟩
  all_goals exact keeps_fixed (by decide)

theorem keeps_tailwind : ∀ line ∈ tailwindLines cls, Keeps cls line := by
  simp only [tailwindLines, List.forall_mem_cons, List.not_mem_nil, false_implies,
    implies_true, and_true]
  refine ⟨?_, ?_, ?_, keeps_empty, ?_, keeps_line classed (.inr rfl) (.inl rfl), ?_, ?_, ?_⟩
  all_goals exact keeps_fixed (by decide)

end Sheets

theorem eq_of_mem_ruleClasses_text {sheet : List String} (keeps : ∀ line ∈ sheet, Keeps cls line) :
    ∀ found ∈ ruleClasses (text sheet), found = cls.toList := by
  intro found hf
  obtain ⟨line, hl, piece, hp, opens⟩ := mem_ruleClasses_text.mp hf
  exact keeps line hl piece hp found opens

/-- The stylesheet of a component has a rule for the class of the component, and for no other,
unless a color brings in lines of its own. -/
theorem ruleClasses_generate (name : String) (config : Config) (palette : List String)
    (styled : effectiveStyling config ≠ .styledComponents) :
    (classOfString name).toList ∈ ruleClasses (generate name config palette) ∧
      ((∀ color ∈ palette, Markup.Lacks '\n' color) →
        ∀ found ∈ ruleClasses (generate name config palette),
        found = (classOfString name).toList) := by
  have classed : ∀ c ∈ (classOfString name).toList, isClassChar c = true := by
    simpa [classOfString] using isClassChar_classOf name.toList
  unfold generate
  generalize classOfString name = cls at classed ⊢
  cases styling : effectiveStyling config with
  | css =>
    exact ⟨mem_ruleClasses_line classed (.inl rfl) (.inl rfl) (by simp [cssLines]),
      fun colors => eq_of_mem_ruleClasses_text (keeps_css classed colors)⟩
  | scss =>
    exact ⟨mem_ruleClasses_line classed (.inl rfl) (.inl rfl) (by simp [scssLines]),
      fun colors => eq_of_mem_ruleClasses_text (keeps_scss classed colors)⟩
  | styledComponents => exact absurd styling styled
  | tailwind =>
    exact ⟨mem_ruleClasses_line classed (.inr rfl) (.inl rfl) (by simp [tailwindLines]),
      fun _ => eq_of_mem_ruleClasses_text (keeps_tailwind classed)⟩

end Handoff.Stylesheet
