import Handoff.Component.Artifacts
import Handoff.Proofs.Markup.Renaming

/-! # One drawing in all frameworks

Every component holds its drawing as lines between the tag of the root and the end of the root. The
frameworks differ in how deep these lines stand and in the dialect of their attributes, and laying
out markup goes with both: deeper lines are the same lines with more spaces before them, and the
lines of the plain dialect are the lines of the markup with plain names.
-/

namespace Handoff.Component

open Markup Text

variable {lines above below parts : List String} {text separator : String} {config : Config}
  {blueprint : Blueprint}

/-! ## Lines in a text -/

/-- The lines stand one below the other in the text, with other text above and below. -/
def Shows (lines : List String) (text : String) : Prop :=
  ∃ above below, text = above ++ "\n" ++ joinLines lines ++ "\n" ++ below

theorem joinLines_around (ne : lines ≠ []) (ha : above ≠ []) (hb : below ≠ []) :
    joinLines (above ++ lines ++ below) =
      joinLines above ++ "\n" ++ joinLines lines ++ "\n" ++ joinLines below := by
  rw [joinLines, String.intercalate_append_of_ne_nil (by simp [ha]) hb,
    String.intercalate_append_of_ne_nil ha ne]
  rfl

theorem shows_joinLines (ne : lines ≠ []) (ha : above ≠ []) (hb : below ≠ []) :
    Shows lines (joinLines (above ++ lines ++ below)) :=
  ⟨joinLines above, joinLines below, joinLines_around ne ha hb⟩

theorem Shows.append (h : Shows lines text) (before after : String) :
    Shows lines (before ++ text ++ after) := by
  obtain ⟨above, below, rfl⟩ := h
  exact ⟨before ++ above, below ++ after, by simp only [String.append_assoc]⟩

theorem Shows.intercalate (h : Shows lines text) (hm : text ∈ parts) :
    Shows lines (separator.intercalate parts) := by
  obtain ⟨front, back, rfl⟩ := List.append_of_mem hm
  -- the separator stands where there is something for it to part the text from
  have ahead : Shows lines (separator.intercalate (text :: back)) := by
    rcases eq_or_ne back [] with rfl | ne
    · rwa [String.intercalate_singleton]
    · rw [String.intercalate_cons_of_ne_nil ne, String.append_assoc]
      simpa using h.append "" (separator ++ separator.intercalate back)
  rcases eq_or_ne front [] with rfl | ne
  · exact ahead
  · rw [String.intercalate_append_of_ne_nil ne (List.cons_ne_nil text back)]
    simpa using ahead.append (separator.intercalate front ++ separator) ""

theorem Shows.within (h : Shows (above ++ lines ++ below) text) (ne : lines ≠ []) (ha : above ≠ [])
    (hb : below ≠ []) : Shows lines text := by
  obtain ⟨before, after, rfl⟩ := h
  simpa only [String.append_assoc] using
    (shows_joinLines ne ha hb).append (before ++ "\n") ("\n" ++ after)

/-! ## The drawing of a component -/

/-- How deep the root of the drawing stands in a component. -/
def rootIndent (config : Config) : Nat :=
  match config.framework with
  | .react => if config.styling == .styledComponents then 6 else 4
  | .vue => 2
  | .angular => 4
  | .svelte => 0

def rootTag (blueprint : Blueprint) : String :=
  match blueprint.config.framework with
  | .react => React.rootTag blueprint
  | .vue => Vue.rootTag blueprint
  | .angular => Angular.rootTag blueprint
  | .svelte => Svelte.rootTag blueprint

def rooted (blueprint : Blueprint) (body : List String) : List String :=
  [indented (rootIndent blueprint.config) (rootTag blueprint)] ++ body ++
    [indented (rootIndent blueprint.config) "</svg>"]

/-- What stands inside the root, in the dialect of the framework. -/
def drawnBody (blueprint : Blueprint) : List String :=
  if blueprint.config.isJsx then blueprint.bodyLines (rootIndent blueprint.config + 2)
  else blueprint.plainBodyLines (rootIndent blueprint.config + 2)

theorem rooted_ne_nil (blueprint : Blueprint) (body : List String) :
    rooted blueprint body ≠ [] := by
  simp [rooted]

theorem React.shows_source (h : blueprint.config.framework = .react) :
    Shows (rooted blueprint (drawnBody blueprint)) (React.source blueprint) := by
  have drawing : rooted blueprint (drawnBody blueprint) =
      [indented (React.rootIndent blueprint) (React.rootTag blueprint)] ++
        blueprint.bodyLines (React.rootIndent blueprint + 2) ++
        [indented (React.rootIndent blueprint) "</svg>"] := by
    simp [rooted, drawnBody, Component.rootIndent, Component.rootTag, Config.isJsx, h,
      React.rootIndent, React.isWrapped]
  have declared : Shows (rooted blueprint (drawnBody blueprint)) (React.declaration blueprint) := by
    unfold React.declaration React.drawingLines
    dsimp only
    rw [← drawing]
    split
    · have wrapped (a b c d e f : String) (drawn : List String) :
          [a, b] ++ ([c] ++ drawn ++ [d]) ++ [e, f] = [a, b, c] ++ drawn ++ [d, e, f] := by simp
      rw [wrapped]
      exact shows_joinLines (rooted_ne_nil _ _) (by simp) (by simp)
    · exact shows_joinLines (rooted_ne_nil _ _) (by simp) (by simp)
  unfold React.source joinSections
  exact Shows.append (declared.intercalate (by simp)) _ _

/-- What stands inside the root has no bearing on what stands around it. -/
theorem React.source_around (bare : Blueprint) : ∃ before after, ∀ inner body,
    let drawn := { bare with root := ⟨bare.root.attributes, inner⟩ }
    drawn.bodyLines (React.rootIndent bare + 2) = body → body ≠ [] →
      React.source drawn = before ++ joinLines body ++ after := by
  let wrapper (mark : String) : List String :=
    if React.isWrapped bare then [mark ++ bare.name ++ "Wrapper>"] else []
  let above := ["const " ++ React.typedName bare ++ " = " ++ React.parameters bare ++ " => \x7b",
    "  return ("] ++ wrapper "    <" ++ [indented (React.rootIndent bare) (React.rootTag bare)]
  let below := [indented (React.rootIndent bare) "</svg>"] ++ wrapper "    </" ++ ["  )", "\x7d"]
  let front := [joinLines (React.importLines bare)] ++
    (if bare.config.typescript then [joinLines (bare.interface React.heritage)] else [])
  refine ⟨React.header bare ++ (joinSections front ++ "\n\n") ++ (joinLines above ++ "\n"),
    "\n" ++ joinLines below ++ ("\n\n" ++ joinLines (React.exportLines bare)) ++ "\n", ?_⟩
  intro inner body drawn held ne
  have lines : React.drawingLines drawn = wrapper "    <" ++
      ([indented (React.rootIndent bare) (React.rootTag bare)] ++ body ++
        [indented (React.rootIndent bare) "</svg>"]) ++ wrapper "    </" := by
    rw [← held, React.drawingLines]
    change (if React.isWrapped bare then _ else _) = _
    simp only [wrapper]
    split
    · rfl
    · exact (List.append_nil _).symm
  have declared : React.declaration drawn = joinLines (above ++ body ++ below) := by
    rw [React.declaration, lines]
    simp only [above, below, List.append_assoc]
    rfl
  have whole : React.source drawn = React.header bare ++
      joinSections (front ++ [React.declaration drawn] ++ [joinLines (React.exportLines bare)]) ++
      "\n" := by
    simp only [React.source, front, List.append_assoc]
    rfl
  have filled : front ≠ [] := List.append_ne_nil_of_left_ne_nil (List.cons_ne_nil _ _) _
  rw [whole, declared, joinLines_around ne (by simp [above]) (by simp [below]), joinSections,
    String.intercalate_append_of_ne_nil (by simp) (List.cons_ne_nil _ _),
    String.intercalate_append_of_ne_nil filled (List.cons_ne_nil _ _),
    String.intercalate_singleton, String.intercalate_singleton]
  simp only [joinSections, String.append_assoc]

theorem Vue.shows_source (h : blueprint.config.framework = .vue) :
    Shows (rooted blueprint (drawnBody blueprint)) (Vue.source blueprint) := by
  have template : Vue.templateLines blueprint =
      ["<template>"] ++ rooted blueprint (drawnBody blueprint) ++ ["</template>"] := by
    simp [Vue.templateLines, rooted, drawnBody, Component.rootIndent, Component.rootTag,
      Config.isJsx, h, indented]
  have shown :
      Shows (rooted blueprint (drawnBody blueprint)) (joinLines (Vue.templateLines blueprint)) :=
    template ▸ shows_joinLines (rooted_ne_nil _ _) (by simp) (by simp)
  unfold Vue.source joinSections
  exact Shows.append (shown.intercalate (by simp)) _ _

theorem Angular.shows_template (h : blueprint.config.framework = .angular) :
    Shows (["  template: `"] ++ rooted blueprint (drawnBody blueprint) ++ ["  `,"])
      (Angular.source blueprint) := by
  have template : Angular.templateLines blueprint = rooted blueprint (drawnBody blueprint) := by
    simp [Angular.templateLines, rooted, drawnBody, Component.rootIndent, Component.rootTag,
      Config.isJsx, h, indented]
  have lines : Angular.classLines blueprint =
      ["@Component(\x7b", "  selector: '" ++ Angular.selector blueprint ++ "',",
        "  standalone: true,", "  styleUrls: ['./" ++ blueprint.stylesheet ++ "'],"] ++
      (["  template: `"] ++ rooted blueprint (drawnBody blueprint) ++ ["  `,"]) ++
      (["\x7d)"] ++ ["export class " ++ blueprint.name ++ Angular.heritage blueprint ++ " \x7b"] ++
        Angular.inputLines blueprint ++ ["\x7d"]) := by
    simp [Angular.classLines, Angular.decoratorLines, template]
  have shown : Shows (["  template: `"] ++ rooted blueprint (drawnBody blueprint) ++ ["  `,"])
      (joinLines (Angular.classLines blueprint)) :=
    lines ▸ shows_joinLines (by simp) (by simp) (by simp)
  unfold Angular.source joinSections
  simpa using Shows.append (shown.intercalate (by simp)) "" "\n"

theorem Angular.shows_source (h : blueprint.config.framework = .angular) :
    Shows (rooted blueprint (drawnBody blueprint)) (Angular.source blueprint) :=
  (Angular.shows_template h).within (rooted_ne_nil _ _) (by simp) (by simp)

theorem Svelte.shows_source (h : blueprint.config.framework = .svelte) :
    Shows (rooted blueprint (drawnBody blueprint)) (Svelte.source blueprint) := by
  have drawing : Svelte.drawingLines blueprint = rooted blueprint (drawnBody blueprint) := by
    simp [Svelte.drawingLines, rooted, drawnBody, Component.rootIndent, Component.rootTag,
      Config.isJsx, h, indented]
  refine ⟨blueprint.markupHeader ++ joinLines (Svelte.moduleLines blueprint) ++ "\n\n" ++
    joinLines (Svelte.instanceLines blueprint) ++ "\n", "", ?_⟩
  simp [Svelte.source, joinSections, drawing, String.append_assoc]

theorem shows_source (blueprint : Blueprint) :
    Shows (rooted blueprint (drawnBody blueprint)) (source blueprint) := by
  unfold source
  cases h : blueprint.config.framework with
  | react => exact React.shows_source h
  | vue => exact Vue.shows_source h
  | angular => exact Angular.shows_source h
  | svelte => exact Svelte.shows_source h

theorem shows_template (h : blueprint.config.framework = .angular) :
    Shows (["  template: `"] ++ rooted blueprint (drawnBody blueprint) ++ ["  `,"])
      (source blueprint) := by
  rw [source, h]
  exact Angular.shows_template h

/-! ## The same lines -/

theorem layout_toPlainNames (indent step : Int) (text : List Char) :
    layout indent step (toPlainNames text) = (layout indent step text).map toPlainNames := by
  have plain : toPlainNames = mapNames (imageOf plainPairs) := funext toPlainNames_eq
  rw [plain]
  exact layout_mapNames keepsNames_plain indent step text

/-- What stands inside the root of a drawing, in the plain dialect and without indentation. -/
def plainBody (markup : String) : List String :=
  (layout 0 defaultStep (toPlainNames (splitRoot (normalForm markup.toList)).inner)).map
    String.ofList

/-- The lines in the plain dialect, given whether they are in JSX. -/
def inPlain (jsx : Bool) (lines : List String) : List String :=
  if jsx then lines.map toPlain else lines

theorem toPlain_bodyLines (blueprint : Blueprint) (indent : Nat) :
    (blueprint.bodyLines indent).map toPlain = blueprint.plainBodyLines indent := by
  rw [Blueprint.bodyLines, Blueprint.plainBodyLines, layout_toPlainNames, List.map_map,
    List.map_map]
  refine List.map_congr_left fun line _ => ?_
  rw [Function.comp_apply, Function.comp_apply, toPlain, String.toList_ofList]

theorem map_indented_plainBodyLines (blueprint : Blueprint) (indent : Nat) :
    (blueprint.plainBodyLines 0).map (indented indent) = blueprint.plainBodyLines indent := by
  have deeper : layout indent defaultStep (toPlainNames blueprint.root.inner) = _ :=
    layout_indent (by decide) indent _
  rw [Blueprint.plainBodyLines, Blueprint.plainBodyLines, deeper, List.map_map, List.map_map]
  refine List.map_congr_left fun line _ => ?_
  rw [Function.comp_apply, Function.comp_apply, indented, String.ofList_append]

theorem inPlain_drawnBody (blueprint : Blueprint) :
    inPlain blueprint.config.isJsx (drawnBody blueprint) =
      (blueprint.plainBodyLines 0).map (indented (rootIndent blueprint.config + 2)) := by
  rw [map_indented_plainBodyLines, inPlain, drawnBody]
  split
  · exact toPlain_bodyLines blueprint _
  · rfl

/-- All frameworks show the same drawing. Laying out markup goes with the change to the plain
dialect, line by line. So what the component of some markup shows inside the root of its drawing is
one list of lines, which the markup alone determines: the frameworks with plain names show these
lines, and React shows lines that become these in the plain dialect, all at the indentation of the
framework. -/
theorem drawing_alike (markup name : String) (config : Config) (origin : Option DesignFile)
    (palette : List String) (stylesheet : Option String) (named : isBlankText name = false)
    (drawn : isBlankText markup = false) :
    (∀ indent step text,
      layout indent step (toPlainNames text) = (layout indent step text).map toPlainNames) ∧
    ∃ artifacts body,
      synthesize markup name config origin palette stylesheet = .ok artifacts ∧
      Shows (rooted (Component.blueprint markup (nameOfString name) config origin) body)
        artifacts.component.content ∧
      inPlain config.isJsx body = (plainBody markup).map (indented (rootIndent config + 2)) := by
  refine ⟨layout_toPlainNames, artifacts markup (nameOfString name) config origin
    palette stylesheet,
    drawnBody (Component.blueprint markup (nameOfString name) config origin), ?_, shows_source _,
    inPlain_drawnBody (Component.blueprint markup (nameOfString name) config origin)⟩
  rw [synthesize, named, drawn]
  rfl

def groupedDrawing : String := "<svg><g stroke-width=\"2\"><path d=\"M0 0\"/></g></svg>"

theorem drawing_alike_grouped :
    isBlankText "Icon" = false ∧ isBlankText groupedDrawing = false ∧
      plainBody groupedDrawing = ["<g stroke-width=\"2\">", "  <path d=\"M0 0\"/>", "</g>"] ∧
      ∃ artifacts body,
        synthesize groupedDrawing "Icon" {} none [] none = .ok artifacts ∧
        Shows (rooted (Component.blueprint groupedDrawing (nameOfString "Icon") {} none) body)
          artifacts.component.content ∧
        inPlain true body = (plainBody groupedDrawing).map (indented 6) := by
  have named : isBlankText "Icon" = false := by decide
  have drawn : isBlankText groupedDrawing = false := by decide
  exact ⟨named, drawn, by decide +kernel,
    (drawing_alike groupedDrawing "Icon" {} none [] none named drawn).2⟩

end Handoff.Component
