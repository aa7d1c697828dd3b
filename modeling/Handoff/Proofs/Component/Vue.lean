import Handoff.Component.Vue
import Handoff.Proofs.Component.Blueprint

/-! # The tags of components for Vue

The template and the script are closed in turn, and the reference to the stylesheet closes itself
behind its opening. The types of properties have arguments, but these stand behind names, where no
tag opens.
-/

namespace Handoff.Component.Vue

open Markup Text

variable {blueprint : Blueprint}

theorem isTag_rootTag (h : IsSound false blueprint) :
    IsTag false (rootTag blueprint).toList [⟨false, rootName⟩] :=
  h.isTag_boundRootTag (by decide) (by decide) (by decide) (by decide)

theorem balances_template (h : IsSound false blueprint) :
    Balances false (templateLines blueprint) := by
  have drawing : Balances false
      (["  " ++ rootTag blueprint] ++ blueprint.plainBodyLines 4 ++ ["  </svg>"]) :=
    (h.balances_plainBody 4).enclose (spells_indented_tag (isTag_rootTag h) 2)
      (spells_indented_tag isTag_rootEnd 2)
  have whole := drawing.within "template".toList [] (by decide) (by decide) (.inr (by decide))
    (a := "<template>") (b := "</template>") rfl rfl
  simpa [templateLines] using whole

theorem spells_propertyLine (h : IsSound false blueprint) (property : Property) :
    Spells false (propertyLine blueprint property).toList [] := by
  have value := h.lacks_default property
  have declared :
      Lacks '<' ("    " ++ property.name ++ ": \x7b type: " ++ runtimeType property) := by
    refine .append (.append (.append (by decide) (inert_propertyName property).bracket) (by decide))
      ?_
    cases property <;> decide
  unfold propertyLine propertyType
  split
  · have named : Lacks '<' ("    " ++ property.name ++ ": \x7b type: " ++ runtimeType property ++
        " as PropType") :=
      declared.append (by decide)
    have typed : Lacks '<' (property.typeName ++ (">, default: " ++
        blueprint.defaultOrUndefined property ++ " \x7d,")) :=
      (inert_typeName property).bracket.append (.append (.append (by decide) value) (by decide))
    have ahead : ∃ c ∈ property.typeName.toList.head?, c ≠ '/' := by
      cases property <;> decide
    have glued : Spells false _ [] := spells_glued named typed (by decide) ahead
    have before : " as PropType<" = " as PropType" ++ "<" := rfl
    have behind : ">, default: " = ">" ++ ", default: " := rfl
    simpa only [before, behind, String.append_assoc] using glued
  · have lacks : Lacks '<' ("    " ++ property.name ++ ": \x7b type: " ++ runtimeType property ++
        ", default: " ++ blueprint.defaultOrUndefined property ++ " \x7d,") :=
      ((declared.append (by decide)).append value).append (by decide)
    exact (spellsAnywhere_of_not_mem lacks).spells

theorem balances_properties (h : IsSound false blueprint) :
    Balances false (propertyLines blueprint) := by
  refine Balances.append (Balances.append (balances_of_lacks (by decide)) ?_)
    (balances_of_lacks (by decide))
  refine balances_of_forall fun line hl => ?_
  obtain ⟨property, -, rfl⟩ := List.mem_map.mp hl
  exact spells_propertyLine h property

theorem balances_script (h : IsSound false blueprint) : Balances false (scriptLines blueprint) := by
  have body :
      Balances false
        (["export default defineComponent(\x7b", "  name: '" ++ blueprint.name ++ "',"] ++
          (if blueprint.config.passProps then propertyLines blueprint else []) ++ ["\x7d)"]) := by
    refine .append (.append (balances_of_inert ?_) ?_) (balances_of_inert (by decide))
    · refine List.forall_mem_cons.mpr ⟨by decide, List.forall_mem_singleton.mpr ?_⟩
      exact .append (.append (by decide) h.inert_name) (by decide)
    · split
      · exact balances_properties h
      · exact balances_nil
  unfold scriptLines
  split
  · have typed :
        Balances false (["import \x7b defineComponent, type PropType \x7d from 'vue'", ""] ++
        blueprint.interface "" ++ [""]) :=
      .append (.append (balances_of_inert (by decide))
        (balances_of_inert (h.inert_interface (by decide)))) (balances_of_inert (by decide))
    have whole := (typed.append body).within "script".toList " lang=\"ts\"".toList (by decide)
      (by decide) (.inr (by decide)) (a := "<script lang=\"ts\">") (b := "</script>") rfl rfl
    simpa using whole
  · have untyped : Balances false ["import \x7b defineComponent \x7d from 'vue'", ""] :=
      balances_of_inert (by decide)
    have whole := (untyped.append body).within "script".toList [] (by decide) (by decide)
      (.inr (by decide)) (a := "<script>") (b := "</script>") rfl rfl
    simpa using whole

theorem balances_style (h : IsSound false blueprint) : Balances false [styleBlock blueprint] := by
  unfold styleBlock
  generalize hl : (if blueprint.config.styling == .scss then " lang=\"scss\"" else "") = language
  have option : IsOpenTail language.toList := by
    rw [← hl]
    split <;> decide
  have path : ∀ c ∈ ("./" ++ blueprint.stylesheet).toList, c ≠ '<' ∧ c ≠ '>' := by
    rw [String.toList_append]
    exact List.forall_mem_append.mpr ⟨by decide, h.styled.free⟩
  have link : IsOpenTail (" src=\"" ++ ("./" ++ blueprint.stylesheet) ++ "\"").toList :=
    isOpenTail_around (by decide) (by decide) path (by decide) (by decide)
  have tail : IsOpenTail (" scoped".toList ++ language.toList ++
      (" src=\"" ++ ("./" ++ blueprint.stylesheet) ++ "\"").toList) :=
    (IsOpenTail.append (by decide) option).append link
  have named : IsTagName "style".toList := by decide
  have opening : IsTag false _ _ := tail.isTag named (.inr (by decide))
  have closing : SpellsAnywhere false _ _ := spellsAnywhere_closing named
  have split : ("<style scoped" ++ language ++ " src=\"./" ++ blueprint.stylesheet ++
      "\"></style>").toList = '<' :: "style".toList ++ (" scoped".toList ++ language.toList ++
        (" src=\"" ++ ("./" ++ blueprint.stylesheet) ++ "\"").toList) ++ ['>'] ++
        ("</".toList ++ "style".toList ++ ['>']) := by simp
  have spelled := opening.spells.append_anywhere closing
  rw [← split] at spelled
  exact ⟨_, spellsLines_singleton spelled, Balanced.nil.wrap "style".toList⟩

theorem balances_source (h : IsSound false blueprint) : Balances false [source blueprint] := by
  have sections : Balances false [joinLines (templateLines blueprint),
      joinLines (scriptLines blueprint), styleBlock blueprint] :=
    (balances_template h).join.cons ((balances_script h).join.cons (balances_style h))
  exact (h.balances_headed (balances_joinSections sections)).newline

end Handoff.Component.Vue
