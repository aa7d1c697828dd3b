import Handoff.Proofs.Component.RootTag
import Handoff.Proofs.Stylesheet.Rule

/-! # The class of the root

The stylesheet of a component has rules for one class only. The root bears this class where
properties are passed, beside the class that is passed to it, and otherwise only if the drawing has
brought it along.
-/

namespace Handoff

open Text

/-! ## Words -/

namespace Text

variable {word : List Char}

theorem wordsAfter_solid (current : List Char) (solid : ∀ c ∈ word, isSpace c = false)
    (rest : List Char) :
    wordsAfter current (word ++ rest) = wordsAfter (word.reverse ++ current) rest := by
  induction word generalizing current with
  | nil => rfl
  | cons c word ih =>
    obtain ⟨first, others⟩ := List.forall_mem_cons.mp solid
    rw [List.cons_append, wordsAfter, first, if_neg Bool.false_ne_true, ih _ others,
      List.reverse_cons, List.append_assoc]
    rfl

theorem words_append_space (ne : word ≠ []) (solid : ∀ c ∈ word, isSpace c = false)
    (rest : List Char) :
    words (word ++ ' ' :: rest) = word :: words rest := by
  have space : isSpace ' ' = true := by decide
  have filled : (word.reverse ++ []).isEmpty = false := by simpa using ne
  rw [words, wordsAfter_solid [] solid, wordsAfter, if_pos space, filled, if_neg Bool.false_ne_true]
  simp

theorem words_solid (ne : word ≠ []) (solid : ∀ c ∈ word, isSpace c = false) :
    words word = [word] := by
  have filled : (word.reverse ++ []).isEmpty = false := by simpa using ne
  have read := wordsAfter_solid [] solid []
  rw [List.append_nil] at read
  rw [words, read, wordsAfter, filled, if_neg Bool.false_ne_true]
  simp

end Text

namespace Component

open Markup

/-! ## The classes of an element -/

/-- The text of a literal at the front, which stands between two marks of its own. -/
def literal : List Char → List Char
  | [] => []
  | mark :: rest => if mark ∈ ['"', '\'', '`'] then rest.takeWhile (· != mark) else []

/-- A text in which nothing can be read between braces. -/
def masked (inside : Bool) : List Char → List Char
  | [] => []
  | c :: rest =>
    if inside then '\x7b' :: masked (c != '\x7d') rest else c :: masked (c == '\x7b') rest

/-- The classes that an attribute puts on its element, whatever is passed to the component. What
braces stand for is not known, where a framework fills them in. -/
def classesOf (framework : Framework) (entry : Attribute) : List (List Char) :=
  match framework with
  | .react =>
    if entry.name = "className".toList then
      match entry.value with
      | '\x7b' :: expression => words (masked false (literal expression))
      | value => words (literal value)
    else []
  | .vue => if entry.name = "class".toList then words (literal entry.value) else []
  | .angular =>
    if entry.name = "class".toList then words (masked false (literal entry.value))
    else if entry.name = "[attr.class]".toList then words (literal (literal entry.value))
    else []
  | .svelte =>
    if entry.name = "class".toList then words (masked false (literal entry.value)) else []

def classesIn (framework : Framework) (entries : List Attribute) : List (List Char) :=
  entries.flatMap (classesOf framework)

def rootClasses (blueprint : Blueprint) : List (List Char) :=
  classesIn blueprint.config.framework (tagEntries (Component.rootTag blueprint).toList)

variable {cls : String} {blueprint : Blueprint} {text : List Char} {mark : Char}

theorem literal_append (kind : mark ∈ ['"', '\'', '`']) (free : mark ∉ text) (rest : List Char) :
    literal (mark :: (text ++ mark :: rest)) = text := by
  rw [literal, if_pos kind, takeWhile_ne_append free]

theorem masked_append (free : '\x7b' ∉ text) (rest : List Char) :
    masked false (text ++ rest) = text ++ masked false rest := by
  induction text with
  | nil => rfl
  | cons c text ih =>
    obtain ⟨first, others⟩ := not_or.mp (List.mem_cons.not.mp free)
    have open_ : (c == '\x7b') = false := beq_false_of_ne (Ne.symm first)
    rw [List.cons_append, masked, if_neg Bool.false_ne_true, open_, ih others, List.cons_append]

section Binding

variable (classed : ∀ c ∈ cls.toList, isClassChar c = true) (ne : cls.toList ≠ [])

include classed ne

theorem words_class : words cls.toList = [cls.toList] :=
  words_solid ne fun c hc => not_isSpace_of_isClassChar (classed c hc)

theorem words_class_space (rest : List Char) :
    words (cls.toList ++ ' ' :: rest) = cls.toList :: words rest :=
  words_append_space ne (fun c hc => not_isSpace_of_isClassChar (classed c hc)) rest

theorem words_class_masked (rest : List Char) :
    words (masked false (cls.toList ++ ' ' :: rest)) = cls.toList :: words (masked false rest) := by
  have free : '\x7b' ∉ cls.toList := fun hm => absurd (classed _ hm) (by decide)
  have space : masked false (' ' :: rest) = ' ' :: masked false rest := rfl
  rw [masked_append free, space, words_class_space classed ne]

/-- Whatever the framework, the class of a component is bound beside the class that is passed. -/
theorem class_mem_bindings (framework : Framework) :
    cls.toList ∈ classesIn framework (bindings cls framework) := by
  have free {mark : Char} (other : isClassChar mark = false) : mark ∉ cls.toList :=
    fun hm => absurd (classed _ hm) (ne_true_of_eq_false other)
  cases framework with
  | react =>
    have value : ("`" ++ cls ++ " $\x7bclassName\x7d`.trim()").toList ++ ['\x7d'] =
        '`' :: ((cls.toList ++ ' ' :: "$\x7bclassName\x7d".toList) ++
          '`' :: ".trim()\x7d".toList) := by
      simp
    have inner : '`' ∉ cls.toList ++ ' ' :: "$\x7bclassName\x7d".toList :=
      List.not_mem_append (free (by decide)) (by decide)
    refine List.mem_flatMap.mpr ⟨_, List.mem_cons_self, ?_⟩
    have read :
        classesOf .react (braced "className" ("`" ++ cls ++ " $\x7bclassName\x7d`.trim()")) =
        words (masked false (literal (("`" ++ cls ++ " $\x7bclassName\x7d`.trim()").toList ++
          ['\x7d']))) :=
      rfl
    rw [read, value, literal_append (by decide) inner, words_class_masked classed ne]
    exact List.mem_cons_self
  | vue =>
    refine List.mem_flatMap.mpr ⟨_, List.mem_cons_self, ?_⟩
    have read : classesOf .vue (quoted "class" cls) =
        words (literal ('"' :: (cls.toList ++ ['"']))) := rfl
    rw [read, literal_append (by decide) (free (by decide)), words_class classed ne]
    exact List.mem_cons_self
  | angular =>
    have value : ("'" ++ cls ++ " ' + className").toList =
        '\'' :: ((cls.toList ++ [' ']) ++ '\'' :: " + className".toList) := by
      simp
    have quote : '"' ∉ cls.toList := free (by decide)
    have outer : '"' ∉ ("'" ++ cls ++ " ' + className").toList := by
      rw [value]
      simpa using quote
    have inner : '\'' ∉ cls.toList ++ [' '] := List.not_mem_append (free (by decide)) (by decide)
    refine List.mem_flatMap.mpr ⟨_, List.mem_cons_self, ?_⟩
    have read : classesOf .angular (quoted "[attr.class]" ("'" ++ cls ++ " ' + className")) =
        words (literal (literal ('"' :: (("'" ++ cls ++ " ' + className").toList ++ ['"'])))) := rfl
    rw [read, literal_append (by decide) outer, value, literal_append (by decide) inner,
      words_class_space classed ne]
    exact List.mem_cons_self
  | svelte =>
    have value : (cls ++ " \x7bclassName\x7d").toList = cls.toList ++
        ' ' :: "\x7bclassName\x7d".toList := by
      simp
    have outer : '"' ∉ (cls ++ " \x7bclassName\x7d").toList := by
      rw [value]
      exact List.not_mem_append (free (by decide)) (by decide)
    refine List.mem_flatMap.mpr ⟨_, List.mem_cons_self, ?_⟩
    have read : classesOf .svelte (quoted "class" (cls ++ " \x7bclassName\x7d")) =
        words (masked false (literal ('"' :: ((cls ++ " \x7bclassName\x7d").toList ++ ['"'])))) :=
          rfl
    rw [read, literal_append (by decide) outer, value, words_class_masked classed ne]
    exact List.mem_cons_self

end Binding

theorem classesIn_append (framework : Framework) (first second : List Attribute) :
    classesIn framework (first ++ second) = classesIn framework first ++
      classesIn framework second :=
  List.flatMap_append

/-- The names of the attributes that put classes on their element, in one framework or another. -/
def classNames : List String := ["className", "class", "[attr.class]"]

theorem classesOf_of_other (framework : Framework) {entry : Attribute}
    (h : ∀ name ∈ classNames, entry.name ≠ name.toList) : classesOf framework entry = [] := by
  have jsx := h "className" (by decide)
  have plain := h "class" (by decide)
  have bound := h "[attr.class]" (by decide)
  cases framework with
  | react => rw [classesOf, if_neg jsx]
  | vue => rw [classesOf, if_neg plain]
  | angular => rw [classesOf, if_neg plain, if_neg bound]
  | svelte => rw [classesOf, if_neg plain]

theorem classesIn_label (framework : Framework) (name : String) :
    classesIn framework [quoted "role" "img", quoted "aria-label" name] = [] := by
  have other : ∀ name ∈ classNames, "role".toList ≠ name.toList ∧
      "aria-label".toList ≠ name.toList := by
    decide
  have role : classesOf framework (quoted "role" "img") = [] :=
    classesOf_of_other framework fun name hn => (other name hn).1
  have label : classesOf framework (quoted "aria-label" name) = [] :=
    classesOf_of_other framework fun name hn => (other name hn).2
  rw [classesIn, List.flatMap_cons, List.flatMap_cons, role, label]
  rfl

/-- The root bears the class of the component where properties are passed, and otherwise only if an
attribute of the drawing puts it there. -/
theorem class_mem_rootClasses_iff (h : IsMade blueprint)
    (classed : ∀ c ∈ blueprint.className.toList, isClassChar c = true)
    (ne : blueprint.className.toList ≠ []) :
    blueprint.className.toList ∈ rootClasses blueprint ↔ blueprint.config.passProps = true ∨
      blueprint.className.toList ∈ classesIn blueprint.config.framework (ownEntries blueprint) := by
  rw [rootClasses, tagEntries_rootTag h, classesIn_append, List.mem_append, addedEntries]
  cases passed : blueprint.config.passProps with
  | true =>
    have bound := class_mem_bindings classed ne blueprint.config.framework
    rw [if_pos rfl, classesIn_append, List.mem_append]
    simp [bound]
  | false =>
    have none : classesIn blueprint.config.framework (if blueprint.isLabelled then
        [quoted "role" "img", quoted "aria-label" blueprint.name] else []) = [] := by
      split
      · exact classesIn_label _ _
      · rfl
    rw [if_neg Bool.false_ne_true, none]
    simp

/-- However a component is made of markup and a name, the rules of its stylesheet are for one class,
unless a color brings in lines of its own. The root of the drawing, as it is shown in the component,
bears this class exactly if properties are passed or the drawing has brought the class along. -/
theorem root_styled_iff (markup name : String) (config : Config) (origin : Option DesignFile)
    (palette : List String) (named : isBlankText name = false) (drawn : isBlankText markup = false)
    (styled : Stylesheet.effectiveStyling config ≠ .styledComponents) :
    ∃ artifacts blueprint body,
      synthesize markup name config origin palette none = .ok artifacts ∧
      blueprint = Component.blueprint markup (nameOfString name) config origin ∧
      Shows (rooted blueprint body) artifacts.component.content ∧
      blueprint.className.toList ∈ Stylesheet.ruleClasses artifacts.stylesheet.content ∧
      ((∀ color ∈ palette, '\n' ∉ color.toList) →
        ∀ found ∈ Stylesheet.ruleClasses artifacts.stylesheet.content,
        found = blueprint.className.toList) ∧
      (blueprint.className.toList ∈ rootClasses blueprint ↔ config.passProps = true ∨
        blueprint.className.toList ∈ classesIn config.framework (ownEntries blueprint)) := by
  have classed (name : String) : ∀ c ∈ (classOfString name).toList, isClassChar c = true := by
    simpa [classOfString] using isClassChar_classOf name.toList
  have filled (name : String) : (classOfString name).toList ≠ [] := by
    simpa [classOfString] using classOf_ne_nil name.toList
  obtain ⟨ruled, only⟩ := Stylesheet.ruleClasses_generate (nameOfString name) config palette styled
  exact ⟨_, _, drawnBody (Component.blueprint markup (nameOfString name) config origin),
    synthesize_eq_ok named drawn config origin palette none, rfl, shows_source _, ruled, only,
    class_mem_rootClasses_iff (isMade_blueprint markup name config origin) (classed _) (filled _)⟩

theorem root_styled_svelte :
    isBlankText "arrow left" = false ∧ isBlankText sizedDrawing = false ∧
      Stylesheet.effectiveStyling { framework := .svelte, styling := .scss } ≠ .styledComponents ∧
      ∃ artifacts blueprint body,
        synthesize sizedDrawing "arrow left" { framework := .svelte, styling := .scss } none
          ["#ff0000"] none =
          .ok artifacts ∧
        blueprint = Component.blueprint sizedDrawing (nameOfString "arrow left")
          { framework := .svelte, styling := .scss } none ∧
        Shows (rooted blueprint body) artifacts.component.content ∧
        blueprint.className.toList ∈ Stylesheet.ruleClasses artifacts.stylesheet.content ∧
        ((∀ color ∈ ["#ff0000"], '\n' ∉ color.toList) →
          ∀ found ∈ Stylesheet.ruleClasses artifacts.stylesheet.content,
            found = blueprint.className.toList) ∧
        (blueprint.className.toList ∈ rootClasses blueprint ↔ true = true ∨
          blueprint.className.toList ∈ classesIn .svelte (ownEntries blueprint)) := by
  have named : isBlankText "arrow left" = false := by decide
  have drawn : isBlankText sizedDrawing = false := by decide
  have styled : Stylesheet.effectiveStyling { framework := .svelte, styling := .scss } ≠
      .styledComponents := by
    decide
  exact ⟨named, drawn, styled, root_styled_iff sizedDrawing "arrow left"
    { framework := .svelte, styling := .scss } none ["#ff0000"] named drawn styled⟩

/-- Without properties, the root bears no class at all, though the stylesheet has a rule for one. -/
theorem root_unstyled :
    ∃ artifacts blueprint body,
      synthesize "<svg></svg>" "Icon" { passProps := false } none [] none = .ok artifacts ∧
      blueprint = Component.blueprint "<svg></svg>" (nameOfString "Icon")
        { passProps := false } none ∧
      Shows (rooted blueprint body) artifacts.component.content ∧
      "icon".toList ∈ Stylesheet.ruleClasses artifacts.stylesheet.content ∧
      rootClasses blueprint = [] := by
  refine ⟨_, _, drawnBody (Component.blueprint "<svg></svg>" (nameOfString "Icon")
    { passProps := false }
    none), synthesize_eq_ok (by decide) (by decide) { passProps := false } none [] none, rfl,
    shows_source _, ?_, ?_⟩
  · have ruled := (Stylesheet.ruleClasses_generate (nameOfString "Icon") { passProps := false } []
      (by decide)).1
    have same : classOfString (nameOfString "Icon") = "icon" := by decide +kernel
    rw [same] at ruled
    exact ruled
  · decide +kernel

end Component

end Handoff
