import Handoff.Proofs.Component.Blueprint
import Handoff.Proofs.Component.Drawing
import Handoff.Proofs.Drawing.Label
import Handoff.Proofs.Text.Lines

/-! # The labels in a component

The labels of a design reach a component between the tags of text elements, escaped for markup and
for nothing else. The frameworks read some characters there as code, and so does a template for
Angular, which stands between backticks. So the texts are literal if and only if no label of the
design has such characters.
-/

namespace Handoff.Component

open Markup Text

variable {sign inner content : List Char} {contents : List (List Char)} {config : Config}
  {blueprint : Blueprint} {binding label : String}

/-! ## The root of a drawing -/

/-- The root of every drawing has attributes that stand behind a space each. -/
theorem exists_toList_openTag : ∃ head : Head,
    Drawing.openTag.toList = rootStart ++ head.render ++ ['>'] ∧ Passive head.render := by
  let head : Head := ⟨[
    ⟨[' '], "width".toList, "400".toList, by decide, by decide, by decide, by decide⟩,
    ⟨[' '], "height".toList, "300".toList, by decide, by decide, by decide, by decide⟩,
    ⟨[' '], "viewBox".toList, "0 0 400 300".toList, by decide, by decide, by decide, by decide⟩,
    ⟨[' '], "xmlns".toList, "http://www.w3.org/2000/svg".toList, by decide, by decide, by decide,
      by decide⟩], [], by decide⟩
  exact ⟨head, by decide +kernel, by decide +kernel⟩

theorem normalForm_rooted (head : Head) (row : Row inner contents) : ∃ image : Head,
    toJsxNames head.render = image.render ∧
      normalForm (rootStart ++ head.render ++ '>' :: (inner ++ rootEnd)) =
        rootStart ++ image.render ++ '>' :: (toJsxNames inner ++ rootEnd) := by
  obtain ⟨image, renamed, mapped⟩ := toJsxNames_rooted head inner
  obtain ⟨m, inside⟩ := row.woven
  have opened := head.isOpenTail.isTag isTagName_rootName (.inl (Eq.refl true))
  have whole := opened.woven (inside.append
    ((IsTag.closing isTagName_rootName).woven (.text List.not_mem_nil)))
  have split : '<' :: rootName ++ head.render ++ ['>'] ++
      (inner ++ ("</".toList ++ rootName ++ ['>'] ++ [])) =
      rootStart ++ head.render ++ '>' :: (inner ++ rootEnd) := by
    simp [rootName, rootStart, rootEnd]
  rw [split] at whole
  have root : rootStart <+: rootStart ++ head.render ++ '>' :: (inner ++ rootEnd) := by
    rw [List.append_assoc]
    exact List.prefix_append _ _
  have last : ∀ c ∈ (rootStart ++ head.render ++ '>' :: (inner ++ rootEnd)).getLast?,
      isSpace c = false := by
    have ends : ('>' :: (inner ++ rootEnd)).getLast? = some '>' := by
      rw [← List.cons_append, List.getLast?_append]
      rfl
    intro c hc
    rw [List.getLast?_append, ends] at hc
    cases hc
    rfl
  exact ⟨image, renamed, (normalForm_eq_toJsxNames whole.not_hasBlock
    (trim_of_rootStart root last) root).trans
    mapped⟩

/-- The root is that of a drawing with some texts: no sign stands in its attributes, and inside it
is a row with the texts. -/
structure IsOfDrawing (root : Root) (contents : List (List Char)) : Prop where
  passive : ∀ entry ∈ root.attributes, Passive entry.render
  row : Row root.inner (contents.map toJsxNames)

theorem passive_toAttribute {source : Assignment} (h : Passive source.render) :
    Passive source.toAttribute.render := by
  simp only [Assignment.render, passive_append, passive_cons] at h
  simp only [Attribute.render, Assignment.toAttribute, passive_append, passive_cons]
  obtain ⟨⟨⟨-, named⟩, equals, quote, value⟩, closed⟩ := h
  exact ⟨⟨rfl, named⟩, equals, ⟨quote, value⟩, closed⟩

theorem isOfDrawing_splitRoot (drawing : Drawing) :
    IsOfDrawing (splitRoot (normalForm drawing.render.toList)) drawing.contents := by
  obtain ⟨inner, text, row⟩ := drawing.row
  obtain ⟨head, opening, quiet⟩ := exists_toList_openTag
  obtain ⟨image, renamed, normal⟩ := normalForm_rooted head row
  have split : drawing.render.toList = rootStart ++ head.render ++ '>' :: (inner ++ rootEnd) := by
    rw [text, opening, List.append_cons]
    simp [Drawing.closeTag, rootEnd]
  rw [split, normal, splitRoot_content]
  constructor
  · have passive : Passive image.render := by
      rw [← renamed, toJsxNames_eq]
      exact quiet.mapNames keepsNames_jsx
    rw [Head.render, passive_append, passive_flatMap] at passive
    intro entry he
    obtain ⟨source, hs, rfl⟩ := List.mem_map.mp he
    exact passive_toAttribute (passive.1 source hs)
  · have renamed : toJsxNames = mapNames (imageOf jsxPairs) := funext toJsxNames_eq
    rw [renamed]
    exact (row.mapNames keepsNames_jsx).trim

/-! ## The body of a component -/

def shownText (config : Config) (content : List Char) : List Char :=
  laidContent (rootIndent config + 2)
    (if config.isJsx then toJsxNames content else toPlainNames (toJsxNames content))

theorem alike_toJsxNames (text : List Char) : Alike text (toJsxNames text) := by
  rw [toJsxNames_eq]
  exact alike_mapNames keepsNames_jsx text

theorem alike_toPlainNames (text : List Char) : Alike text (toPlainNames text) := by
  rw [toPlainNames_eq]
  exact alike_mapNames keepsNames_plain text

theorem infix_shownText_iff (hs : IsSign sign) (config : Config) (content : List Char) :
    sign <:+: shownText config content ↔ sign <:+: content := by
  rw [shownText, infix_laidContent_iff hs, (alike_toJsxNames content).infix_iff hs]
  split
  · rfl
  · exact ((alike_toPlainNames _).infix_iff hs).symm

theorem holds_shownText_iff (hs : IsSign sign) (contents : List (List Char)) (config : Config) :
    Holds sign (contents.map (shownText config)) ↔ Holds sign contents := by
  simp only [Holds, List.mem_map, exists_exists_and_eq_and, infix_shownText_iff hs]

theorem row_drawnBody (h : IsOfDrawing blueprint.root contents) :
    Row ((drawnBody blueprint).flatMap fun line => '\n' :: line.toList)
      (contents.map (shownText blueprint.config)) := by
  have spaces : indentAt ((rootIndent blueprint.config + 2 : Nat) : Int) defaultStep 0 =
      rootIndent blueprint.config + 2 := by
    simp only [indentAt, Nat.cast_zero, zero_mul, add_zero, Int.toNat_natCast]
  have written (lines : List (List Char)) :
      (lines.map String.ofList).flatMap (fun line => '\n' :: line.toList) =
        lines.flatMap ('\n' :: ·) := by
    rw [List.flatMap_map]
    simp only [String.toList_ofList]
  by_cases jsx : blueprint.config.isJsx = true
  · have shown :
        shownText blueprint.config = laidContent (rootIndent blueprint.config + 2) ∘
          toJsxNames := by
      funext content
      rw [shownText, if_pos jsx, Function.comp_apply]
    have laid := h.row.layout ((rootIndent blueprint.config + 2 : Nat) : Int) defaultStep
    rw [spaces, List.map_map] at laid
    rw [drawnBody, if_pos jsx, Blueprint.bodyLines, written, shown]
    exact laid
  · have shown : shownText blueprint.config =
        (laidContent (rootIndent blueprint.config + 2) ∘ toPlainNames) ∘ toJsxNames := by
      funext content
      rw [shownText, if_neg jsx, Function.comp_apply, Function.comp_apply]
    have plain : toPlainNames = mapNames (imageOf plainPairs) := funext toPlainNames_eq
    have laid :=
      (h.row.mapNames keepsNames_plain).layout ((rootIndent blueprint.config + 2 : Nat) : Int)
      defaultStep
    rw [spaces, List.map_map, List.map_map, ← plain] at laid
    rw [drawnBody, if_neg jsx, Blueprint.plainBodyLines, written, shown]
    exact laid

theorem textContents_drawnBody (h : IsOfDrawing blueprint.root contents) :
    textContents (joinLines (drawnBody blueprint)).toList =
      contents.map (shownText blueprint.config) := by
  have texts := (row_drawnBody h).textContents
  rcases eq_or_ne (drawnBody blueprint) [] with none | ne
  · rw [none] at texts ⊢
    exact texts
  · have behind :=
      textContents_of_not_mem (x := ['\n']) (by decide) (joinLines (drawnBody blueprint)).toList
    rw [flatMap_newline ne] at texts
    exact behind.symm.trans texts

theorem bears_drawnBody_iff (hs : IsSign sign) (h : IsOfDrawing blueprint.root contents) :
    Bears sign (drawnBody blueprint) ↔ Holds sign contents := by
  rw [← holds_shownText_iff hs contents blueprint.config, ← (row_drawnBody h).infix_iff hs]
  rcases eq_or_ne (drawnBody blueprint) [] with none | ne
  · rw [none]
    exact iff_of_false (not_bears_nil sign) (hs.not_infix (List.forall_mem_nil _))
  · rw [flatMap_newline ne, hs.infix_cons_iff rfl, infix_joinLines_iff hs.ne_nil (hs.not_mem rfl)]

/-! ## The template of a component for Angular -/

theorem passive_rootAttributes {attributes : List Attribute}
    (h : ∀ entry ∈ attributes, Passive entry.render) :
    Passive (Blueprint.rootAttributes attributes).toList := by
  rw [Blueprint.rootAttributes, String.toList_ofList, renderAttributes, passive_flatMap]
  exact h

theorem passive_plainRootTag (h : IsOfDrawing blueprint.root contents)
    (named : Passive blueprint.name.toList)
    (hb : Passive binding.toList) (hl : Passive label.toList) :
    Passive (blueprint.plainRootTag binding label).toList := by
  have whole : Passive (blueprint.rootTag binding label "").toList := by
    unfold Blueprint.rootTag Blueprint.fixedLabel
    split
    · have kept :
          Passive (Blueprint.rootAttributes (blueprint.root.without Property.boundNames)).toList :=
        passive_rootAttributes fun entry he => h.passive entry (List.mem_filter.mp he).1
      simp only [String.toList_append, passive_append]
      refine ⟨⟨⟨⟨⟨by decide, kept⟩, hb⟩, ?_⟩, by decide⟩, by decide⟩
      split
      · rw [String.toList_append, passive_append]
        exact ⟨by decide, hl⟩
      · decide
    · simp only [String.toList_append, passive_append]
      refine ⟨⟨⟨by decide, passive_rootAttributes h.passive⟩, ?_⟩, by decide⟩
      split
      · simp only [String.toList_append, passive_append]
        exact ⟨⟨by decide, named⟩, by decide⟩
      · decide
  rw [Blueprint.plainRootTag, toPlain, String.toList_ofList, toPlainNames_eq]
  exact whole.mapNames keepsNames_plain

theorem passive_nameOfString (name : String) : Passive (nameOfString name).toList := by
  rw [nameOfString, String.toList_ofList]
  exact fun c hc => isActive_of_class (by decide) (isAlphanum_nameOf _ c hc)

theorem passive_classOfString (name : String) : Passive (classOfString name).toList := by
  rw [classOfString, String.toList_ofList]
  exact fun c hc => isActive_of_class (by decide) (isClassChar_classOf _ c hc)

theorem passive_indented {s : String} (h : Passive s.toList) (spaces : Nat) :
    Passive (indented spaces s).toList := by
  rw [indented, String.toList_append, String.toList_ofList, passive_append]
  exact ⟨fun c hc => List.eq_of_mem_replicate hc ▸ rfl, h⟩

theorem Angular.passive_rootTag (h : IsOfDrawing blueprint.root contents)
    (named : Passive blueprint.name.toList) (classed : Passive blueprint.className.toList) :
    Passive (Angular.rootTag blueprint).toList := by
  refine passive_plainRootTag h named ?_ (by decide)
  simp only [String.toList_append, passive_append]
  exact ⟨⟨⟨⟨by decide, classed⟩, by decide⟩, by decide⟩, by decide⟩

theorem Angular.infix_template_iff (hs : IsSign sign) (h : IsOfDrawing blueprint.root contents)
    (framework : blueprint.config.framework = .angular) (named : Passive blueprint.name.toList)
    (classed : Passive blueprint.className.toList) :
    sign <:+: (joinLines (rooted blueprint (drawnBody blueprint))).toList ↔
      Holds sign contents := by
  have opened :
      Passive (indented (rootIndent blueprint.config) (Component.rootTag blueprint)).toList := by
    rw [Component.rootTag, framework]
    exact passive_indented (Angular.passive_rootTag h named classed) _
  have closed : Passive (indented (rootIndent blueprint.config) "</svg>").toList :=
    passive_indented (by decide) _
  rw [infix_joinLines_iff hs.ne_nil (hs.not_mem rfl), rooted, bears_append, bears_append,
    bears_singleton, bears_singleton, bears_drawnBody_iff hs h, or_iff_left (hs.not_infix closed),
    or_iff_right (hs.not_infix opened)]

/-! ## Literal texts -/

def codeMarks : Framework → List String
  | .react | .svelte => ["\x7b", "\x7d"]
  | .vue | .angular => ["\x7b\x7b"]

def templateMarks : List String := ["`", "$\x7b"]

def Lacking (marks : List String) (text : List Char) : Prop :=
  ∀ mark ∈ marks, ¬ mark.toList <:+: text

instance (marks : List String) (text : List Char) : Decidable (Lacking marks text) :=
  inferInstanceAs (Decidable (∀ mark ∈ marks, _))

theorem isSign_codeMarks (framework : Framework) :
    ∀ mark ∈ codeMarks framework, IsSign mark.toList := by
  cases framework <;> decide

theorem isSign_templateMarks : ∀ mark ∈ templateMarks, IsSign mark.toList := by decide

/-- Texts whose signs are those of a drawing lack some marks if and only if the labels do. -/
theorem lacking_iff {marks : List String} (hs : ∀ mark ∈ marks, IsSign mark.toList)
    (design : Json) :
    (∀ mark ∈ marks, ¬ Holds mark.toList (Drawing.ofDesign design).contents) ↔
      ∀ value, design.DrawsText value → Lacking marks value.labelText.toList := by
  constructor
  · intro free value drawn mark hm found
    exact free mark hm ((holds_contents_iff (hs mark hm) design).mpr ⟨value, drawn, found⟩)
  · intro free mark hm held
    obtain ⟨value, drawn, found⟩ := (holds_contents_iff (hs mark hm) design).mp held
    exact free value drawn mark hm found

theorem lacking_texts_iff {marks : List String} (hs : ∀ mark ∈ marks, IsSign mark.toList)
    (contents : List (List Char)) (config : Config) :
    (∀ content ∈ contents.map (shownText config), Lacking marks content) ↔
      ∀ mark ∈ marks, ¬ Holds mark.toList contents := by
  constructor
  · intro free mark hm held
    obtain ⟨content, hc, found⟩ := (holds_shownText_iff (hs mark hm) contents config).mpr held
    exact free content hc mark hm found
  · intro free content hc mark hm found
    exact free mark hm ((holds_shownText_iff (hs mark hm) contents config).mp ⟨content, hc, found⟩)

def blueprintOf (design : Json) (name : String) (config : Config) (origin : Option DesignFile) :
    Blueprint :=
  Component.blueprint (Drawing.ofDesign design).render (nameOfString name) config origin

theorem root_blueprintOf (design : Json) (name : String) (config : Config)
    (origin : Option DesignFile) :
    (blueprintOf design name config origin).root =
      splitRoot (normalForm (Drawing.ofDesign design).render.toList) := by
  rw [blueprintOf, Component.blueprint]

theorem isOfDrawing_blueprintOf (design : Json) (name : String) (config : Config)
    (origin : Option DesignFile) :
    IsOfDrawing (blueprintOf design name config origin).root
      (Drawing.ofDesign design).contents := by
  rw [root_blueprintOf]
  exact isOfDrawing_splitRoot (Drawing.ofDesign design)

def bodyOf (design : Json) (name : String) (config : Config) (origin : Option DesignFile) :
    List String :=
  drawnBody (blueprintOf design name config origin)

def drawingOf (design : Json) (name : String) (config : Config) (origin : Option DesignFile) :
    List String :=
  rooted (blueprintOf design name config origin) (bodyOf design name config origin)

theorem textContents_bodyOf (design : Json) (name : String) (config : Config)
    (origin : Option DesignFile) :
    textContents (joinLines (bodyOf design name config origin)).toList =
      (Drawing.ofDesign design).contents.map (shownText config) :=
  textContents_drawnBody (isOfDrawing_blueprintOf design name config origin)

theorem infix_drawingOf_iff (hs : IsSign sign) (design : Json) (name : String)
    (origin : Option DesignFile) (framework : config.framework = .angular) :
    sign <:+: (joinLines (drawingOf design name config origin)).toList ↔
      Holds sign (Drawing.ofDesign design).contents :=
  Angular.infix_template_iff hs (isOfDrawing_blueprintOf design name config origin) framework
    (passive_nameOfString name) (passive_classOfString _)

theorem isBlankText_drawing (drawing : Drawing) : isBlankText drawing.render = false := by
  obtain ⟨inner, text, -⟩ := drawing.row
  have tag : Drawing.openTag.toList.all isSpace = false := rfl
  rw [isBlankText, text, List.append_assoc, List.all_append, tag, Bool.false_and]

theorem synthesize_ofDesign (design : Json) {name : String} (config : Config)
    (origin : Option DesignFile)
    (palette : List String) (stylesheet : Option String) (named : isBlankText name = false) :
    ∃ artifacts,
      synthesize (Drawing.ofDesign design).render name config origin palette stylesheet =
        .ok artifacts ∧
      artifacts.component.content = source (blueprintOf design name config origin) := by
  refine ⟨artifacts _ (nameOfString name) config origin palette stylesheet, ?_, rfl⟩
  rw [synthesize, named, isBlankText_drawing]
  rfl

/-- The texts of a component are literal if and only if the labels of its design are. Every design
is drawn and becomes a component that shows its drawing. The text elements there lack what the
framework reads as code if and only if the labels of all text nodes that are drawn lack it. For
Angular, the same holds of the template between its backticks and of what ends it or starts code in
it. -/
theorem texts_literal_iff (design : Json) (name : String) (config : Config)
    (origin : Option DesignFile)
    (palette : List String) (stylesheet : Option String) (named : isBlankText name = false) :
    ∃ artifacts,
      synthesize (Drawing.ofDesign design).render name config origin palette stylesheet =
        .ok artifacts ∧
      Shows (drawingOf design name config origin) artifacts.component.content ∧
      ((∀ content ∈ textContents (joinLines (bodyOf design name config origin)).toList,
          Lacking (codeMarks config.framework) content) ↔
        ∀ value, design.DrawsText value →
          Lacking (codeMarks config.framework) value.labelText.toList) ∧
      (config.framework = .angular →
        Shows (["  template: `"] ++ drawingOf design name config origin ++ ["  `,"])
          artifacts.component.content ∧
        (Lacking templateMarks (joinLines (drawingOf design name config origin)).toList ↔
          ∀ value, design.DrawsText value → Lacking templateMarks value.labelText.toList)) := by
  obtain ⟨artifacts, made, written⟩ :=
    synthesize_ofDesign design config origin palette stylesheet named
  refine ⟨artifacts, made, written ▸ shows_source _, ?texts, fun framework => ⟨?shown, ?template⟩⟩
  case texts =>
    rw [textContents_bodyOf]
    exact (lacking_texts_iff (isSign_codeMarks config.framework) _ config).trans
      (lacking_iff (isSign_codeMarks config.framework) design)
  case shown =>
    rw [written]
    exact shows_template framework
  case template =>
    rw [← lacking_iff isSign_templateMarks design]
    refine forall₂_congr fun mark hm => not_congr ?_
    exact infix_drawingOf_iff (isSign_templateMarks mark hm) design name origin framework

theorem labelText_of_drawsText_pageDesign {value : Json} (h : pageDesign.DrawsText value) :
    value.labelText = "a < b" := by
  obtain ⟨path, listed⟩ := (drawsText_iff h.readable).mp h
  have labels : (drawnTexts pageDesign.unwrapDocument).map (fun entry => entry.2.labelText) =
      ["a < b"] := by
    rfl
  have label := List.mem_map_of_mem (f := fun entry : List Nat × Json => entry.2.labelText) listed
  rw [labels] at label
  exact List.mem_singleton.mp label

theorem texts_literal_page :
    isBlankText "Icon" = false ∧ ∃ artifacts,
      synthesize (Drawing.ofDesign pageDesign).render "Icon" { framework := .angular }
        none [] none =
        .ok artifacts ∧
      (∀ content ∈ textContents (joinLines
        (bodyOf pageDesign "Icon" { framework := .angular } none)).toList,
        Lacking ["\x7b\x7b"] content) ∧
      Shows (["  template: `"] ++ drawingOf pageDesign "Icon" { framework := .angular } none ++
        ["  `,"])
        artifacts.component.content ∧
      Lacking ["`", "$\x7b"]
        (joinLines (drawingOf pageDesign "Icon" { framework := .angular } none)).toList := by
  have named : isBlankText "Icon" = false := by decide
  obtain ⟨artifacts, made, -, texts, template⟩ :=
    texts_literal_iff pageDesign "Icon" { framework := .angular } none [] none named
  obtain ⟨shown, free⟩ := template rfl
  refine ⟨named, artifacts, made, texts.mpr ?_, shown, free.mpr ?_⟩
  · intro value drawn
    rw [labelText_of_drawsText_pageDesign drawn]
    decide
  · intro value drawn
    rw [labelText_of_drawsText_pageDesign drawn]
    decide

def bracedText : Json :=
  .object [("type", .string "TEXT"), ("characters", .string "\x7ba\x7d"),
    ("absoluteBoundingBox",
      .object [("x", .float 1), ("y", .float 2), ("width", .float 3), ("height", .float 4)])]

def bracedDesign : Json := .object [("document", .object [("children", .list [bracedText])])]

/-- The braces reach the component, where they enclose an expression. -/
theorem text_read_as_code :
    bracedDesign.DrawsText bracedText ∧ bracedText.labelText = "\x7ba\x7d" ∧ ∃ artifacts,
      synthesize (Drawing.ofDesign bracedDesign).render "Icon" {} none [] none = .ok artifacts ∧
      Shows (drawingOf bracedDesign "Icon" {} none) artifacts.component.content ∧
      textContents (joinLines (bodyOf bracedDesign "Icon" {} none)).toList =
        ["\x7ba\x7d".toList] := by
  have drawn : Drawing.ofDesign bracedDesign = .shapes [.label ⟨1, 2, 3, 4⟩ "\x7ba\x7d"] := by rfl
  have readable : ∀ fault, Drawing.ofDesign bracedDesign ≠ .unreadable fault := by
    intro fault he
    rw [drawn] at he
    cases he
  have listed : drawnTexts bracedDesign.unwrapDocument = [([0], bracedText)] := by rfl
  have content : shownText {} (escape "\x7ba\x7d".toList) = "\x7ba\x7d".toList := by decide +kernel
  obtain ⟨artifacts, made, written⟩ := synthesize_ofDesign bracedDesign {} none [] none
    (show isBlankText "Icon" = false by decide)
  refine ⟨(drawsText_iff readable).mpr ⟨[0], listed ▸ List.mem_singleton_self _⟩, rfl,
    artifacts, made, written ▸ shows_source _, ?_⟩
  rw [textContents_bodyOf, drawn]
  exact congrArg (fun text => [text]) content

end Handoff.Component
