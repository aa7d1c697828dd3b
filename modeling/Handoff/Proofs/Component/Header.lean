import Handoff.Component.Artifacts
import Handoff.Proofs.Component.Name
import Handoff.Proofs.Component.React
import Handoff.Proofs.Text.Lines

/-! # Headers

A header is a comment of several lines, in the style of the framework. Everything else than the
facts about the file keeps the mark that ends such a comment out of it, so that the comment ends at
its last line unless one of the facts holds the mark.
-/

namespace Handoff

def DesignFile.originFacts (file : DesignFile) : List String :=
  [file.name, file.key, file.lastModified, file.thumbnailUrl].flatMap Option.toList

namespace Component

open Text

variable {mark : List Char} {blueprint : Blueprint} {file : DesignFile}

/-- How a comment of several lines is written: its first line, what stands before each line and in
the last one, and the mark that ends it. -/
structure CommentStyle where
  start : String
  lead : String
  margin : String
  mark : String

def commentStyle : Framework → CommentStyle
  | .react | .angular => ⟨"/**", " * ", " ", "*/"⟩
  | .vue | .svelte => ⟨"<!--", "  ", "", "-->"⟩

def CommentStyle.front (style : CommentStyle) (lines : List String) : String :=
  joinLines ([style.start] ++ lines.map (style.lead ++ ·) ++ [style.margin])

/-! ## The comment in the source -/

theorem joinLines_append_last {lines : List String} (ne : lines ≠ []) (last : String) :
    joinLines (lines ++ [last]) = joinLines lines ++ "\n" ++ last := by
  rw [joinLines, String.intercalate_append_of_ne_nil ne (List.cons_ne_nil _ _),
    String.intercalate_singleton]
  rfl

/-- The mark stands behind the front of the comment, in the same line. -/
theorem CommentStyle.joinLines_eq (style : CommentStyle) (lines : List String) :
    joinLines ([style.start] ++ lines.map (style.lead ++ ·) ++ [style.margin ++ style.mark]) =
      style.front lines ++ style.mark := by
  have ne : [style.start] ++ lines.map (style.lead ++ ·) ≠ [] := by simp
  rw [CommentStyle.front, joinLines_append_last ne, joinLines_append_last ne, ← String.append_assoc]

theorem scriptHeader?_eq (present : blueprint.header ≠ []) :
    blueprint.scriptHeader? =
      some ((commentStyle .react).front (blueprint.name :: blueprint.header) ++ "*/") := by
  rw [Blueprint.scriptHeader?, if_neg (by simpa using present)]
  exact congrArg some ((commentStyle .react).joinLines_eq _)

theorem markupHeader_eq (present : blueprint.header ≠ []) :
    blueprint.markupHeader =
      (commentStyle .vue).front (blueprint.name :: blueprint.header) ++ "-->" ++ "\n" := by
  rw [Blueprint.markupHeader, if_neg (by simpa using present)]
  exact congrArg (· ++ "\n") ((commentStyle .vue).joinLines_eq _)

theorem source_eq (blueprint : Blueprint) (present : blueprint.header ≠ []) :
    ∃ rest, source blueprint =
      (commentStyle blueprint.config.framework).front (blueprint.name :: blueprint.header) ++
        (commentStyle blueprint.config.framework).mark ++ rest := by
  unfold source
  cases h : blueprint.config.framework with
  | react =>
    simp only [React.source, React.header, scriptHeader?_eq present, Option.map_some,
      Option.getD_some, String.append_assoc]
    exact ⟨_, rfl⟩
  | vue =>
    simp only [Vue.source, markupHeader_eq present, String.append_assoc]
    exact ⟨_, rfl⟩
  | angular =>
    simp only [Angular.source, scriptHeader?_eq present, Option.toList_some, joinSections,
      List.cons_append]
    rw [String.intercalate_cons_of_ne_nil (by simp)]
    simp only [String.append_assoc]
    exact ⟨_, rfl⟩
  | svelte =>
    simp only [Svelte.source, markupHeader_eq present, String.append_assoc]
    exact ⟨_, rfl⟩

/-! ## The mark in the header -/

def IsCommentEnd (mark : List Char) : Prop :=
  ∃ framework, mark = (commentStyle framework).mark.toList

/-- Whether a character stands in no mark that ends a comment. -/
def isMarkless (c : Char) : Bool := !(['*', '/', '-', '>'].contains c)

theorem isCommentEnd_cases (h : IsCommentEnd mark) :
    mark = ['*', '/'] ∨ mark = ['-', '-', '>'] := by
  obtain ⟨framework, rfl⟩ := h
  cases framework with
  | react => exact .inl rfl
  | vue => exact .inr rfl
  | angular => exact .inl rfl
  | svelte => exact .inr rfl

theorem IsCommentEnd.ne_nil (h : IsCommentEnd mark) : mark ≠ [] := by
  rcases isCommentEnd_cases h with rfl | rfl <;> decide

theorem IsCommentEnd.not_mem (h : IsCommentEnd mark) {c : Char} (hc : isMarkless c = true) :
    c ∉ mark := by
  have marked : ∀ d ∈ mark, isMarkless d = false := by
    rcases isCommentEnd_cases h with rfl | rfl <;> decide
  exact fun hm => ne_true_of_eq_false (marked c hm) hc

theorem IsCommentEnd.not_infix (h : IsCommentEnd mark) {x : List Char}
    (hx : ∀ c ∈ x, isMarkless c = true) : ¬ mark <:+: x := by
  intro found
  obtain ⟨c, rest, rfl⟩ := List.exists_cons_of_ne_nil h.ne_nil
  exact h.not_mem (hx c (found.subset List.mem_cons_self)) List.mem_cons_self

/-- What stands in front of a character that is in no mark does not matter if it has no mark. -/
theorem infix_led_iff {c : Char} {x y : List Char} (hc : c ∉ mark) (hx : ¬ mark <:+: x) :
    mark <:+: x ++ c :: y ↔ mark <:+: y := by
  rw [infix_append_cons_iff hc, or_iff_right hx]

theorem bears_stated (ne : mark ≠ []) (fact : Option String) :
    Bears mark (DesignFile.stated fact).toList ↔ Bears mark fact.toList := by
  cases fact with
  | none => rfl
  | some s =>
    by_cases filled : s = ""
    · subst filled
      refine iff_of_false (not_bears_nil mark) fun found => ne ?_
      rw [Option.toList_some, bears_singleton] at found
      exact List.infix_nil.mp found
    · rw [DesignFile.stated, Option.filter_some, if_pos (by simpa using filled)]

theorem bears_told (h : IsCommentEnd mark) {lead : String} (front : List Char)
    (hl : lead.toList = front ++ [' ']) (free : ∀ c ∈ front, isMarkless c = true)
      (fact : Option String) :
    Bears mark ((DesignFile.stated fact).map (lead ++ ·)).toList ↔ Bears mark fact.toList := by
  rw [← bears_stated h.ne_nil fact]
  cases DesignFile.stated fact with
  | none => rfl
  | some s =>
    rw [Option.map_some, Option.toList_some, Option.toList_some, bears_singleton, bears_singleton,
      String.toList_append, hl, List.append_assoc]
    exact infix_led_iff (h.not_mem (by decide)) (h.not_infix free)

theorem infix_named_iff (h : IsCommentEnd mark) (name rest : List Char) :
    mark <:+: "Generated from Figma file \"".toList ++ (name ++ '"' :: rest) ↔
      mark <:+: name ∨ mark <:+: rest := by
  have lead : "Generated from Figma file \"".toList = "Generated from Figma file ".toList ++
      ['"'] := rfl
  rw [lead, ← List.append_cons, infix_led_iff (h.not_mem (by decide)) (h.not_infix (by decide)),
    infix_append_cons_iff (h.not_mem (by decide))]

theorem infix_bracketed_iff (h : IsCommentEnd mark) (key : List Char) :
    mark <:+: [' '] ++ '(' :: (key ++ [')']) ↔ mark <:+: key := by
  rw [infix_led_iff (h.not_mem (by decide)) (h.not_infix (by decide)),
    infix_append_cons_iff (h.not_mem (by decide)), or_iff_left (h.not_infix (by decide))]

theorem infix_keyed_iff (h : IsCommentEnd mark) (key : List Char) :
    mark <:+: "Generated from Figma file ".toList ++ key ↔ mark <:+: key := by
  have lead : "Generated from Figma file ".toList = "Generated from Figma file".toList ++ [' '] :=
    rfl
  rw [lead, ← List.append_cons, infix_led_iff (h.not_mem (by decide)) (h.not_infix (by decide))]

theorem bears_originLine (h : IsCommentEnd mark) (file : DesignFile) :
    Bears mark file.originLine.toList ↔ Bears mark file.name.toList ∨
    Bears mark file.key.toList := by
  rw [← bears_stated h.ne_nil file.name, ← bears_stated h.ne_nil file.key, DesignFile.originLine]
  cases DesignFile.stated file.name with
  | some name =>
    rw [Option.toList_some, bears_singleton]
    cases DesignFile.stated file.key with
    | some key =>
      rw [Option.toList_some, Option.toList_some, bears_singleton, bears_singleton,
        String.toList_append,
        String.toList_append, String.toList_append, String.toList_append, List.append_assoc,
        List.append_assoc, List.append_assoc]
      exact (infix_named_iff h name.toList _).trans
        (or_congr_right (infix_bracketed_iff h key.toList))
    | none =>
      rw [Option.toList_some, Option.toList_none, bears_singleton, or_iff_left (not_bears_nil mark),
        String.toList_append, String.toList_append, List.append_assoc]
      exact (infix_named_iff h name.toList []).trans (or_iff_left (h.not_infix (by decide)))
  | none =>
    rw [Option.toList_none, or_iff_right (not_bears_nil mark)]
    cases DesignFile.stated file.key with
    | some key =>
      rw [Option.toList_some, Option.toList_some, bears_singleton, bears_singleton,
        String.toList_append]
      exact infix_keyed_iff h key.toList
    | none => rfl

theorem bears_headerLines (h : IsCommentEnd mark) (file : DesignFile) :
    Bears mark file.headerLines ↔ Bears mark file.originFacts := by
  rw [DesignFile.headerLines, bears_append, bears_append, bears_originLine h,
    bears_told h "Last modified:".toList rfl (by decide),
    bears_told h "Thumbnail:".toList rfl (by decide), DesignFile.originFacts]
  simp only [List.flatMap_cons, List.flatMap_nil, List.append_nil, bears_append, or_assoc]

theorem not_bears_library (h : IsCommentEnd mark) (config : Config) :
    ¬ Bears mark (if config.componentLibrary == .custom then []
      else ["Component library: " ++ config.componentLibrary.name]) := by
  split
  · exact not_bears_nil mark
  · rw [bears_singleton]
    refine h.not_infix ?_
    cases config.componentLibrary <;> decide

/-! ## The end of the header -/

theorem commentStyle_plain (framework : Framework) :
    ¬ (commentStyle framework).mark.toList <:+: (commentStyle framework).start.toList ∧
      ¬ (commentStyle framework).mark.toList <:+:
        (commentStyle framework).margin.toList ++ (commentStyle framework).mark.toList.dropLast ∧
      ∃ front, (commentStyle framework).lead.toList = front ++ [' '] ∧
        ¬ (commentStyle framework).mark.toList <:+: front := by
  cases framework with
  | react => exact ⟨by decide, by decide, [' ', '*'], rfl, by decide⟩
  | vue => exact ⟨by decide, by decide, [' '], rfl, by decide⟩
  | angular => exact ⟨by decide, by decide, [' ', '*'], rfl, by decide⟩
  | svelte => exact ⟨by decide, by decide, [' '], rfl, by decide⟩

/-- A comment ends at its last line if and only if none of its lines holds the mark. -/
theorem cutAt_front_iff (framework : Framework) (lines : List String) (rest : List Char) :
    cutAt (commentStyle framework).mark.toList (((commentStyle framework).front lines).toList ++
        (commentStyle framework).mark.toList ++ rest) =
      some (((commentStyle framework).front lines).toList, rest) ↔
      ¬ Bears (commentStyle framework).mark.toList lines := by
  have h : IsCommentEnd (commentStyle framework).mark.toList := ⟨framework, rfl⟩
  obtain ⟨start, last, front, lead, free⟩ := commentStyle_plain framework
  generalize commentStyle framework = style at *
  have led : Bears style.mark.toList (lines.map (style.lead ++ ·)) ↔
      Bears style.mark.toList lines := by
    induction lines with
    | nil => rfl
    | cons line lines ih =>
      rw [List.map_cons, bears_cons, bears_cons, ih, String.toList_append, lead, List.append_assoc]
      exact or_congr_left (infix_led_iff (h.not_mem (by decide)) free)
  have text : (style.front lines).toList ++ style.mark.toList.dropLast =
      (joinLines ([style.start] ++ lines.map (style.lead ++ ·) ++
        [style.margin ++ String.ofList style.mark.toList.dropLast])).toList := by
    rw [CommentStyle.front, joinLines_append_last (by simp), joinLines_append_last (by simp)]
    simp only [String.toList_append, String.toList_ofList, List.append_assoc]
  rw [cutAt_append_eq_iff h.ne_nil, text, infix_joinLines_iff h.ne_nil (h.not_mem (by decide)),
    bears_append,
    bears_append, bears_singleton, bears_singleton, led, or_iff_right start, String.toList_append,
    String.toList_ofList, or_iff_left last]

theorem isMarkless_of_isAlphanum {c : Char} (h : c.isAlphanum = true) : isMarkless c = true := by
  rw [isMarkless, Bool.not_eq_true', ← Bool.not_eq_true, List.contains_iff_mem]
  intro marked
  simp only [List.mem_cons, List.not_mem_nil, or_false] at marked
  rcases marked with rfl | rfl | rfl | rfl <;> exact absurd h (by decide)

theorem bears_header_iff (h : IsCommentEnd mark) (name : String) (config : Config)
    (origin : Option DesignFile) :
    Bears mark (nameOfString name :: headerLines config origin) ↔
      ∃ file ∈ origin, Bears mark file.originFacts := by
  have named : ¬ mark <:+: (nameOfString name).toList := by
    refine h.not_infix fun c hc => isMarkless_of_isAlphanum ?_
    rw [nameOfString, String.toList_ofList] at hc
    exact isAlphanum_nameOf _ c hc
  rw [bears_cons, or_iff_right named, headerLines, bears_append,
    or_iff_left (not_bears_library h config)]
  cases origin with
  | none => simp [not_bears_nil]
  | some file => simp [bears_headerLines h]

def headerFront (name : String) (config : Config) (origin : Option DesignFile) : List Char :=
  ((commentStyle config.framework).front (nameOfString name :: headerLines config origin)).toList

def endMark (framework : Framework) : List Char := (commentStyle framework).mark.toList

theorem content_headed {markup name : String} {config : Config} {origin : Option DesignFile}
    (palette : List String) (stylesheet : Option String) (named : isBlankText name = false)
    (drawn : isBlankText markup = false) (present : headerLines config origin ≠ []) :
    ∃ artifacts rest, synthesize markup name config origin palette stylesheet = .ok artifacts ∧
      artifacts.component.content.toList =
        headerFront name config origin ++ endMark config.framework ++ rest := by
  have accepted : synthesize markup name config origin palette stylesheet =
      .ok (artifacts markup (nameOfString name) config origin palette stylesheet) := by
    rw [synthesize, named, drawn]
    rfl
  obtain ⟨rest, written⟩ :=
    source_eq (Component.blueprint markup (nameOfString name) config origin) present
  refine ⟨_, rest.toList, accepted, ?_⟩
  have content := congrArg String.toList written
  rwa [String.toList_append, String.toList_append] at content

/-- A component with a header begins with a comment of the style of its framework. The first mark of
an end in the component is the one at the end of this comment if and only if none of the facts about
the file holds such a mark. -/
theorem header_ends_iff (markup name : String) (config : Config) (origin : Option DesignFile)
    (palette : List String) (stylesheet : Option String) (named : isBlankText name = false)
    (drawn : isBlankText markup = false) (present : headerLines config origin ≠ []) :
    ∃ artifacts rest, synthesize markup name config origin palette stylesheet = .ok artifacts ∧
      artifacts.component.content.toList =
        headerFront name config origin ++ endMark config.framework ++ rest ∧
      (cutAt (endMark config.framework) artifacts.component.content.toList =
          some (headerFront name config origin, rest) ↔
        ∀ file ∈ origin, ∀ fact ∈ file.originFacts,
        ¬ endMark config.framework <:+: fact.toList) := by
  obtain ⟨artifacts, rest, accepted, content⟩ :=
    content_headed palette stylesheet named drawn present
  refine ⟨artifacts, rest, accepted, content, ?_⟩
  have ends : IsCommentEnd (endMark config.framework) := ⟨config.framework, rfl⟩
  have cut := cutAt_front_iff config.framework (nameOfString name :: headerLines config origin) rest
  rw [content]
  refine cut.trans ((not_congr (bears_header_iff ends name config origin)).trans ?_)
  simp only [Bears, not_exists, not_and]

def namedFile (name : String) : DesignFile :=
  { document := none, key := none, name := some name, lastModified := none, thumbnailUrl := none
    version := none, components := [], styles := [] }

/-- The mark of another style does no harm. -/
theorem header_ends_vue :
    isBlankText "Icon" = false ∧ isBlankText "<svg></svg>" = false ∧
      headerLines { framework := .vue } (some (namedFile "a*/b")) ≠ [] ∧
      ∃ artifacts rest,
        synthesize "<svg></svg>" "Icon" { framework := .vue } (some (namedFile "a*/b")) [] none =
            .ok artifacts ∧
          cutAt "-->".toList artifacts.component.content.toList =
            some ("<!--\n  Icon\n  Generated from Figma file \"a*/b\"\n".toList, rest) := by
  have named : isBlankText "Icon" = false := by decide
  have drawn : isBlankText "<svg></svg>" = false := by decide
  have present : headerLines { framework := .vue } (some (namedFile "a*/b")) ≠ [] := by decide
  have front : headerFront "Icon" { framework := .vue } (some (namedFile "a*/b")) =
      "<!--\n  Icon\n  Generated from Figma file \"a*/b\"\n".toList := by
    decide +kernel
  obtain ⟨artifacts, rest, accepted, -, ends⟩ :=
    header_ends_iff "<svg></svg>" "Icon" { framework := .vue } (some (namedFile "a*/b"))
      [] none named drawn
      present
  refine ⟨named, drawn, present, artifacts, rest, accepted, ?_⟩
  rw [← front]
  refine ends.mpr ?_
  rintro _ ⟨⟩ fact told
  obtain rfl : fact = "a*/b" := by simpa [namedFile, DesignFile.originFacts] using told
  decide

/-- A name that holds the mark ends the header. -/
theorem header_ended_by_name :
    headerLines {} (some (namedFile "a*/b")) ≠ [] ∧
      headerFront "Icon" {} (some (namedFile "a*/b")) =
        "/**\n * Icon\n * Generated from Figma file \"a*/b\"\n ".toList ∧
      ∃ artifacts rest,
        synthesize "<svg></svg>" "Icon" {} (some (namedFile "a*/b")) [] none = .ok artifacts ∧
          cutAt "*/".toList artifacts.component.content.toList =
            some ("/**\n * Icon\n * Generated from Figma file \"a".toList, rest) := by
  have present : headerLines {} (some (namedFile "a*/b")) ≠ [] := by decide
  have front : headerFront "Icon" {} (some (namedFile "a*/b")) =
      "/**\n * Icon\n * Generated from Figma file \"a*/b\"\n ".toList := by
    decide +kernel
  have early : "/**\n * Icon\n * Generated from Figma file \"a*/b\"\n ".toList =
      "/**\n * Icon\n * Generated from Figma file \"a".toList ++ "*/".toList ++
        "b\"\n ".toList := by
    decide +kernel
  obtain ⟨artifacts, rest, accepted, content⟩ :=
    content_headed [] none (show isBlankText "Icon" = false by decide)
      (show isBlankText "<svg></svg>" = false by decide) present
  refine ⟨present, front, artifacts, "b\"\n ".toList ++ (endMark .react ++ rest), accepted, ?_⟩
  rw [content, front, early, List.append_assoc, List.append_assoc]
  refine (cutAt_append_eq_iff (by decide) _).mpr ?_
  decide +kernel

end Component

end Handoff
