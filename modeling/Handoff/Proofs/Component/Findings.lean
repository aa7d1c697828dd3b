import Handoff.Component.Artifacts
import Handoff.Proofs.Component.Angular
import Handoff.Proofs.Component.React
import Handoff.Proofs.Component.Svelte
import Handoff.Proofs.Component.Vue

/-! # Documents become components without findings

A well-formed document becomes a component in which the tag checks find nothing, in each framework
and with all options.
-/

namespace Handoff.Component

open Markup Text

variable {jsx : Bool}

theorem isSound_blueprint (document : Document) (name : String) (config : Config)
    (closed : jsx = true ∨ ∀ element ∈ document.names, isVoid element = false) :
    IsSound jsx (Component.blueprint (String.ofList document.render)
      (nameOfString name) config none) := by
  have letters : (nameOfString name).toList = nameOf name.toList := String.toList_ofList
  have named : ∀ c ∈ (nameOfString name).toList, c.isAlphanum = true :=
    letters ▸ isAlphanum_nameOf name.toList
  have drawn : ∃ m, IsDrawn jsx (Markup.splitRoot
      (Markup.normalForm (String.ofList document.render).toList)) m := by
    rw [String.toList_ofList]
    exact document.isDrawn closed
  unfold Component.blueprint
  generalize Markup.splitRoot (Markup.normalForm (String.ofList document.render).toList) = root
    at drawn ⊢
  exact ⟨named, letters ▸ isAlpha_nameOf name.toList, letters ▸ nameOf_ne_nil name.toList,
    isWordy_classOfString _,
    isWordy_fileName (fun c hc => continuesAttribute_of_isAlphanum (named c hc)) config,
    inert_headerLines config, drawn⟩

theorem checkTags_source {blueprint : Blueprint}
    (h : IsSound blueprint.config.isJsx blueprint) (checkAttributes : Bool) :
    checkTags blueprint.config.isJsx checkAttributes (source blueprint).toList = [] := by
  unfold Config.isJsx source at *
  cases hf : blueprint.config.framework with
  | react =>
    rw [hf] at h
    exact checkTags_eq_nil (React.balances_source h).balanced
      (fun _ => plainNamesFrom_eq_nil_iff.mpr (React.clean_source h)) checkAttributes
  | vue =>
    rw [hf] at h
    exact checkTags_eq_nil (Vue.balances_source h).balanced (fun he => by cases he) checkAttributes
  | angular =>
    rw [hf] at h
    exact checkTags_eq_nil (Angular.balances_source h).balanced (fun he => by cases he)
      checkAttributes
  | svelte =>
    rw [hf] at h
    exact checkTags_eq_nil (Svelte.balances_source h).balanced
      (fun he => by cases he) checkAttributes

theorem isBlankText_render (document : Document) :
    isBlankText (String.ofList document.render) = false := by
  obtain ⟨rest, hr⟩ := document.rootStart_prefix
  rw [isBlankText, String.toList_ofList, ← hr]
  rfl

/-- The component of a document passes the tag checks, whatever the options are: all tags are closed
in turn, and in JSX no attribute has its plain name. Only the plain dialect asks that no element is
one that is never closed. -/
theorem component_without_findings (document : Document) (name : String) (config : Config)
    (palette : List String) (stylesheet : Option String) (checkAttributes : Bool)
    (named : isBlankText name = false)
    (closed : config.isJsx = true ∨ ∀ element ∈ document.names, isVoid element = false) :
    ∃ artifacts,
      synthesize (String.ofList document.render) name config none palette stylesheet =
        .ok artifacts ∧
        checkTags config.isJsx checkAttributes artifacts.component.content.toList = [] := by
  refine ⟨artifacts (String.ofList document.render) (nameOfString name) config none
    palette stylesheet,
    ?_, checkTags_source (isSound_blueprint document name config closed) checkAttributes⟩
  rw [synthesize, named, isBlankText_render]
  rfl

theorem component_without_findings_vue :
    isBlankText "Icon" = false ∧
      (∀ element ∈ labelledDocument.names, isVoid element = false) ∧
      ∃ artifacts,
        synthesize (String.ofList labelledDocument.render) "Icon"
          { framework := .vue } none [] none =
            .ok artifacts ∧
          checkTags false true artifacts.component.content.toList = [] :=
  ⟨by decide, by decide,
    component_without_findings labelledDocument "Icon" { framework := .vue }
      [] none true (by decide)
      (.inr (by decide))⟩

end Handoff.Component
