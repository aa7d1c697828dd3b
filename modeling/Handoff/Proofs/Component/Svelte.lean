import Handoff.Component.Svelte
import Handoff.Proofs.Component.Blueprint

/-! # The tags of components for Svelte

The two scripts are closed before the drawing, and their lines hold no opening brackets.
-/

namespace Handoff.Component.Svelte

open Markup Text

variable {blueprint : Blueprint}

theorem isOpenTail_language (blueprint : Blueprint) :
    IsOpenTail (scriptLanguage blueprint).toList := by
  unfold scriptLanguage
  split <;> decide

theorem balances_module (h : IsSound false blueprint) : Balances false (moduleLines blueprint) := by
  have named : Lacks '<' ("  export const componentName = '" ++ blueprint.name ++ "'") :=
    .append (.append (by decide) h.inert_name.bracket) (by decide)
  have types : ∀ line ∈ (if blueprint.config.typescript then
      "" :: (blueprint.interface "").map (indented 2) else []), Inert line := by
    split
    · refine List.forall_mem_cons.mpr ⟨by decide, fun line hl => ?_⟩
      obtain ⟨member, hm, rfl⟩ := List.mem_map.mp hl
      exact inert_indented (h.inert_interface (by decide) member hm) 2
    · simp
  have body : Balances false _ :=
    (balances_of_lacks (List.forall_mem_singleton.mpr named)).append (balances_of_inert types)
  have tail : IsOpenTail (" context=\"module\"" ++ scriptLanguage blueprint).toList := by
    rw [String.toList_append]
    exact IsOpenTail.append (by decide) (isOpenTail_language blueprint)
  have whole := body.within "script".toList _ (by decide) tail (.inr (by decide))
    (a := "<script context=\"module\"" ++ scriptLanguage blueprint ++ ">") (b := "</script>")
    (by simp) rfl
  simpa [moduleLines] using whole

theorem lacks_propertyLine (h : IsSound false blueprint) (property : Property) :
    Lacks '<' (propertyLine blueprint property) := by
  have annotated : Lacks '<' <| annotation blueprint property := by
    unfold annotation
    split
    · refine .append (.append (by decide) (inert_typeName property).bracket) ?_
      split <;> decide
    · decide
  exact .append (.append (.append (.append (by decide) (inert_propertyName property).bracket)
    annotated) (by decide)) (h.lacks_default property)

theorem balances_instance (h : IsSound false blueprint) :
    Balances false (instanceLines blueprint) := by
  have imported : Inert ("  import './" ++ blueprint.stylesheet ++ "'") :=
    .append (.append (by decide) h.styled.inert) (by decide)
  have declared : ∀ line ∈ propertyLines blueprint, Lacks '<' line := by
    unfold propertyLines
    split
    · refine List.forall_mem_cons.mpr ⟨by decide, fun line hl => ?_⟩
      obtain ⟨property, -, rfl⟩ := List.mem_map.mp hl
      exact lacks_propertyLine h property
    · simp
  have body : Balances false _ :=
    (balances_of_inert (List.forall_mem_singleton.mpr imported)).append (balances_of_lacks declared)
  have whole := body.within "script".toList (scriptLanguage blueprint).toList (by decide)
    (isOpenTail_language blueprint) (.inr (by decide))
    (a := "<script" ++ scriptLanguage blueprint ++ ">") (b := "</script>") (by simp) rfl
  simpa [instanceLines] using whole

theorem isTag_rootTag (h : IsSound false blueprint) :
    IsTag false (rootTag blueprint).toList [⟨false, rootName⟩] :=
  h.isTag_boundRootTag (by decide) (by decide) (by decide) (by decide)

theorem balances_drawing (h : IsSound false blueprint) : Balances false (drawingLines blueprint) :=
  (h.balances_plainBody 2).enclose (isTag_rootTag h).spells isTag_rootEnd.spells

theorem balances_source (h : IsSound false blueprint) : Balances false [source blueprint] := by
  have sections : Balances false [joinLines (moduleLines blueprint),
      joinLines (instanceLines blueprint), joinLines (drawingLines blueprint)] :=
    (balances_module h).join.cons ((balances_instance h).join.cons (balances_drawing h).join)
  exact (h.balances_headed (balances_joinSections sections)).newline

end Handoff.Component.Svelte
