import Handoff.Component.React
import Handoff.Proofs.Component.Blueprint

/-! # The tags of components for React

The wrapper and the drawing are closed in turn; types with arguments stand behind names, where no
tag opens. No attribute has its plain name, neither in the drawing nor in the defaults of the
parameters.
-/

namespace Handoff.Component.React

open Markup Text

variable {blueprint : Blueprint}

theorem inert_moduleName (h : IsSound true blueprint) :
    Inert (Stylesheet.moduleName blueprint.name blueprint.config) := by
  unfold Stylesheet.moduleName
  split
  · exact h.inert_name.append (by decide)
  · exact h.inert_name

theorem inert_importLines (h : IsSound true blueprint) :
    ∀ line ∈ importLines blueprint, Inert line := by
  refine List.forall_mem_cons.mpr ⟨by decide, List.forall_mem_singleton.mpr ?_⟩
  split
  · exact .append (.append (.append (.append (by decide) h.inert_name) (by decide))
      (inert_moduleName h)) (by decide)
  · exact .append (.append (by decide) h.styled.inert) (by decide)

theorem balances_interface (h : IsSound true blueprint) :
    Balances true (blueprint.interface heritage) := by
  have named : Lacks '<' ("export interface " ++ blueprint.name ++ "Props extends React." ++
      "SVGProps") :=
    .append (.append (.append (by decide) h.inert_name.bracket) (by decide)) (by decide)
  have typed : Lacks '<' ("SVGSVGElement" ++ "> \x7b") := by decide
  have glued : Spells true _ [] := spells_glued named typed (by decide) (by decide)
  have split : "export interface " ++ blueprint.name ++ "Props" ++ heritage ++ " \x7b" =
      "export interface " ++ blueprint.name ++ "Props extends React." ++ "SVGProps" ++ "<" ++
        ("SVGSVGElement" ++ "> \x7b") := by
    simp [heritage, extending, ← String.toList_inj]
  have first := balances_of_spells (split ▸ glued)
  exact first.append (balances_of_inert (inert_members blueprint.config))

theorem isTag_rootTag (h : IsSound true blueprint) :
    IsTag true (rootTag blueprint).toList [⟨false, rootName⟩] :=
  h.isTag_rootTag (h.isOpenTail_binding (by decide) (by decide) (by decide)) (by decide) (by decide)

theorem isTagName_wrapper (h : IsSound true blueprint) :
    IsTagName (blueprint.name ++ "Wrapper").toList := by
  rw [String.toList_append]
  refine ⟨by simp, fun c hc => ?_, List.forall_mem_append.mpr ⟨fun c hc => ?_, by decide⟩⟩
  · rw [List.head?_append_of_ne_nil _ h.ne_nil] at hc
    exact h.first c hc
  · have alphanum := h.named c hc
    simp [continuesTagName, isWord_of_isAlphanum (toNat_lt_of_isAlphanum alphanum) alphanum]

theorem balances_drawing (h : IsSound true blueprint) : Balances true (drawingLines blueprint) := by
  have drawing := (h.balances_body (rootIndent blueprint + 2)).enclose
    (spells_indented_tag (isTag_rootTag h) (rootIndent blueprint))
    (spells_indented_tag isTag_rootEnd (rootIndent blueprint))
  unfold drawingLines
  dsimp only
  split
  · have named := isTagName_wrapper h
    have opening : ("    <" ++ blueprint.name ++ "Wrapper>").toList = List.replicate 4 ' ' ++
        ('<' :: (blueprint.name ++ "Wrapper").toList ++ [] ++ ['>']) := by simp
    have closing : ("    </" ++ blueprint.name ++ "Wrapper>").toList = List.replicate 4 ' ' ++
        ("</".toList ++ (blueprint.name ++ "Wrapper").toList ++ ['>']) := by simp
    exact drawing.enclose (opening ▸ spells_indented
      (isOpenTail_nil.isTag named (.inl rfl)).spells 4)
      (closing ▸ spells_indented (spellsAnywhere_closing named).spells 4)
  · exact drawing

theorem lacks_parameters (h : IsSound true blueprint) : Lacks '<' (parameters blueprint) := by
  have listed : ∀ s ∈ blueprint.properties.map (parameter blueprint) ++ ["...props"],
      Lacks '<' s := by
    refine List.forall_mem_append.mpr ⟨fun s hs => ?_, by decide⟩
    obtain ⟨property, -, rfl⟩ := List.mem_map.mp hs
    unfold parameter
    cases hd : blueprint.default? property with
    | none => exact (inert_propertyName property).bracket
    | some value =>
      exact .append (.append (inert_propertyName property).bracket (by decide))
        (h.default property value hd).1
  unfold parameters
  split
  · exact .append (.append (by decide) (lacks_intercalate (by decide) listed)) (by decide)
  · decide

theorem spells_declared (h : IsSound true blueprint) : Spells true
    ("const " ++ typedName blueprint ++ " = " ++ parameters blueprint ++ " => \x7b").toList [] := by
  have parameters := lacks_parameters h
  have name := h.inert_name.bracket
  unfold typedName
  split
  · have named : Lacks '<' ("const " ++ blueprint.name ++ ": React." ++ "FC") :=
      .append (.append (.append (by decide) name) (by decide)) (by decide)
    have typed :
        Lacks '<' (blueprint.name ++ ("Props> = " ++ React.parameters blueprint ++ " => \x7b")) :=
      name.append (.append (.append (by decide) parameters) (by decide))
    have ahead : ∃ c ∈ blueprint.name.toList.head?, c ≠ '/' := by
      obtain ⟨c, rest, hn⟩ := List.exists_cons_of_ne_nil h.ne_nil
      have alpha := h.first c (by simp [hn])
      exact ⟨c, by simp [hn], by rintro rfl; exact absurd alpha (by decide)⟩
    have glued : Spells true _ [] := spells_glued named typed (by decide) ahead
    simpa [← String.toList_inj] using glued
  · have lacks :
        Lacks '<' ("const " ++ blueprint.name ++ " = " ++ React.parameters blueprint ++
          " => \x7b") :=
      .append (.append (.append (.append (by decide) name) (by decide)) parameters) (by decide)
    exact (spellsAnywhere_of_not_mem lacks).spells

theorem balances_declaration (h : IsSound true blueprint) :
    Balances true [declaration blueprint] := by
  have opening : Balances true ["  return ("] := balances_of_lacks (by decide)
  have closing : Balances true ["  )", "\x7d"] := balances_of_lacks (by decide)
  exact ((((balances_of_spells (spells_declared h)).append opening).append
    (balances_drawing h)).append closing).join

theorem header_append (blueprint : Blueprint) (s : String) :
    header blueprint ++ s = joinLines (blueprint.scriptHeader?.toList ++ [s]) := by
  unfold header
  cases blueprint.scriptHeader? <;> simp [joinLines]

theorem inert_exportLines (h : IsSound true blueprint) :
    ∀ line ∈ exportLines blueprint, Inert line := by
  have exported : Inert ("export default " ++ blueprint.name) := .append (by decide) h.inert_name
  refine List.forall_mem_append.mpr ⟨?_, List.forall_mem_singleton.mpr exported⟩
  split
  · exact List.forall_mem_singleton.mpr (.append (.append (by decide) h.inert_name) (by decide))
  · simp

theorem balances_source (h : IsSound true blueprint) : Balances true [source blueprint] := by
  have types : Balances true
      (if blueprint.config.typescript then [joinLines (blueprint.interface heritage)] else []) := by
    split
    · exact (balances_interface h).join
    · exact balances_nil
  have imports : Balances true _ := (balances_of_inert (inert_importLines h)).join
  have exports : Balances true _ := (balances_of_inert (inert_exportLines h)).join
  have sections := (imports.append types).append ((balances_declaration h).cons exports)
  have header : Balances true blueprint.scriptHeader?.toList :=
    balances_of_inert fun s hs => h.inert_scriptHeader s (Option.mem_toList.mp hs)
  have whole := (header.append (balances_joinSections sections)).join.newline
  rw [← header_append] at whole
  exact whole

theorem clean_drawing (h : IsSound true blueprint) :
    ∀ line ∈ drawingLines blueprint, Clean line.toList := by
  have root : Clean (rootTag blueprint).toList := by
    refine h.clean_rootTag ?_ (by decide) (by decide)
    rw [String.toList_append]
    exact (isLed_around (by decide) (by decide) (by decide) h.classed.inert (by decide)).append
      (by decide)
  have drawing : ∀ line ∈ [indented (rootIndent blueprint) (rootTag blueprint)] ++
      blueprint.bodyLines (rootIndent blueprint + 2) ++ [indented (rootIndent blueprint) "</svg>"],
      Clean line.toList := by
    refine List.forall_mem_append.mpr ⟨List.forall_mem_append.mpr ⟨?_, h.clean_body _⟩, ?_⟩
    · exact List.forall_mem_singleton.mpr (clean_indented_line root _)
    · exact List.forall_mem_singleton.mpr (clean_indented_line (by decide) _)
  have wrapper {before : String} (hb : Lacks '=' before) :
      Clean (before ++ blueprint.name ++ "Wrapper>").toList :=
    Lacks.clean ((hb.append h.inert_name.equals).append (by decide))
  unfold drawingLines
  dsimp only
  split
  · refine List.forall_mem_append.mpr ⟨List.forall_mem_append.mpr ⟨?_, drawing⟩, ?_⟩
    · exact List.forall_mem_singleton.mpr (wrapper (by decide))
    · exact List.forall_mem_singleton.mpr (wrapper (by decide))
  · exact drawing

theorem clean_parameter (h : IsSound true blueprint) (property : Property) :
    Clean (parameter blueprint property).toList := by
  unfold parameter
  cases hd : blueprint.default? property with
  | none => exact (inert_propertyName property).clean
  | some value =>
    have front : Clean (property.name ++ " = ").toList := by cases property <;> decide
    have last := getLast?_toList_append property.name (b := " = ") rfl
    exact clean_append_seam front (h.default property value hd).2 last (by decide)

theorem clean_parameters (h : IsSound true blueprint) : Clean (parameters blueprint).toList := by
  have listed : ∀ s ∈ blueprint.properties.map (parameter blueprint) ++ ["...props"],
      Clean s.toList := by
    refine List.forall_mem_append.mpr ⟨fun s hs => ?_, by decide⟩
    obtain ⟨property, -, rfl⟩ := List.mem_map.mp hs
    exact clean_parameter h property
  unfold parameters
  split
  · have joined : Clean (", ".intercalate _).toList :=
      clean_intercalate (by decide) (by decide) (by decide) listed
    have opened : Clean ("(\x7b " ++ _).toList :=
      clean_append_seam (by decide) joined rfl (by decide)
    exact clean_seam_append opened (by decide) rfl (by decide)
  · decide

theorem clean_declared (h : IsSound true blueprint) :
    Clean ("const " ++ typedName blueprint ++ " = " ++ parameters blueprint ++
      " => \x7b").toList := by
  have named : Lacks '=' ("const " ++ typedName blueprint) := by
    unfold typedName
    split
    · exact .append (by decide) (.append (.append (.append h.inert_name.equals (by decide))
        h.inert_name.equals) (by decide))
    · exact .append (by decide) h.inert_name.equals
  have equals : Clean ("const " ++ typedName blueprint ++ " = ").toList :=
    clean_seam_append named.clean (by decide) rfl (by decide)
  have last := getLast?_toList_append ("const " ++ typedName blueprint) (b := " = ") rfl
  have assigned := clean_append_seam equals (clean_parameters h) last (by decide)
  exact clean_seam_append assigned (by decide) rfl (by decide)

theorem clean_declaration (h : IsSound true blueprint) : Clean (declaration blueprint).toList := by
  refine clean_joinLines (List.forall_mem_append.mpr ⟨List.forall_mem_append.mpr
    ⟨List.forall_mem_cons.mpr ⟨clean_declared h, ?_⟩, clean_drawing h⟩, ?_⟩) <;> decide

theorem lacks_interface (h : IsSound true blueprint) :
    ∀ line ∈ blueprint.interface heritage, Lacks '=' line := by
  have first :
      Lacks '=' ("export interface " ++ blueprint.name ++ "Props" ++ heritage ++ " \x7b") :=
    .append (.append (.append (.append (by decide) h.inert_name.equals) (by decide)) (by decide))
      (by decide)
  exact List.forall_mem_cons.mpr
    ⟨first, fun line hl => (inert_members blueprint.config line hl).equals⟩

theorem clean_source (h : IsSound true blueprint) : Clean (source blueprint).toList := by
  have types : ∀ s ∈ (if blueprint.config.typescript then
      [joinLines (blueprint.interface heritage)] else []), Clean s.toList := by
    split
    · exact List.forall_mem_singleton.mpr
        (clean_joinLines fun line hl => (lacks_interface h line hl).clean)
    · simp
  have imports : Clean (joinLines (importLines blueprint)).toList :=
    clean_joinLines fun line hl => (inert_importLines h line hl).clean
  have exports : Clean (joinLines (exportLines blueprint)).toList :=
    clean_joinLines fun line hl => (inert_exportLines h line hl).clean
  have sections : ∀ s ∈ [joinLines (importLines blueprint)] ++
      (if blueprint.config.typescript then [joinLines (blueprint.interface heritage)] else []) ++
      [declaration blueprint, joinLines (exportLines blueprint)], Clean s.toList := by
    simp only [List.forall_mem_append, List.forall_mem_cons]
    exact ⟨⟨⟨imports, by simp⟩, types⟩, clean_declaration h, exports, by simp⟩
  have joined := clean_joinLines (List.forall_mem_append.mpr
    ⟨fun s hs => (h.inert_scriptHeader s (Option.mem_toList.mp hs)).clean,
      List.forall_mem_singleton.mpr (clean_joinSections sections)⟩)
  rw [← header_append] at joined
  exact clean_seam_append joined (by decide) rfl (by decide)

end Handoff.Component.React
