import Handoff.Component.Angular
import Handoff.Proofs.Component.Blueprint

/-! # The tags of components for Angular

The only tags are those of the template, which stands between the lines of the decorator.
-/

namespace Handoff.Component.Angular

open Markup Text

variable {blueprint : Blueprint}

theorem isTag_rootTag (h : IsSound false blueprint) :
    IsTag false (rootTag blueprint).toList [⟨false, rootName⟩] := by
  refine h.isTag_plainRootTag ?_ (by decide)
  rw [String.toList_append]
  exact (h.isOpenTail_binding (by decide) (by decide) (by decide)).append (by decide)

theorem balances_template (h : IsSound false blueprint) :
    Balances false (templateLines blueprint) :=
  (h.balances_plainBody 6).enclose (spells_indented_tag (isTag_rootTag h) 4)
    (spells_indented_tag isTag_rootEnd 4)

theorem balances_decorator (h : IsSound false blueprint) :
    Balances false (decoratorLines blueprint) := by
  have element : Inert (selector blueprint) := by
    unfold selector
    exact .append (by decide) (isWordy_classOfString blueprint.name).inert
  have selected : Inert ("  selector: '" ++ selector blueprint ++ "',") :=
    .append (.append (by decide) element) (by decide)
  have styled : Inert ("  styleUrls: ['./" ++ blueprint.stylesheet ++ "'],") :=
    .append (.append (by decide) h.styled.inert) (by decide)
  have before : ∀ line ∈ ["@Component(\x7b", "  selector: '" ++ selector blueprint ++ "',",
      "  standalone: true,", "  styleUrls: ['./" ++ blueprint.stylesheet ++ "'],"], Inert line := by
    simp only [List.forall_mem_cons]
    exact ⟨by decide, selected, by decide, styled, by simp⟩
  have opening : Balances false ["  template: `"] := balances_of_lacks (by decide)
  exact (((balances_of_inert before).append opening).append (balances_template h)).append
    (balances_of_inert (by decide))

theorem inert_inputType (typescript : Bool) (default : Option String) (property : Property) :
    Inert (inputType typescript default property) := by
  unfold inputType
  split
  · refine .append ?_ (inert_typeName property)
    split <;> decide
  · decide

theorem lacks_inputLine (h : IsSound false blueprint) (property : Property) :
    Lacks '<' (inputLine blueprint property) := by
  have declared (default : Option String) : Inert ("  @Input() " ++ property.name ++
      inputType blueprint.config.typescript default property) :=
    .append (.append (by decide) (inert_propertyName property)) (inert_inputType _ default property)
  unfold inputLine
  cases hd : blueprint.default? property with
  | none => exact (declared none).bracket.append (by decide)
  | some s =>
    exact (declared (some s)).bracket.append (.append (by decide) (h.default property s hd).1)

theorem balances_class (h : IsSound false blueprint) : Balances false (classLines blueprint) := by
  have heritage : Inert (heritage blueprint) := by
    unfold heritage
    split
    · exact .append (.append (by decide) h.inert_name) (by decide)
    · decide
  have declared :
      Inert ("export class " ++ blueprint.name ++ Angular.heritage blueprint ++ " \x7b") :=
    .append (.append (.append (by decide) h.inert_name) heritage) (by decide)
  have inputs : ∀ line ∈ inputLines blueprint, Lacks '<' line := by
    unfold inputLines
    split
    · intro line hl
      obtain ⟨property, -, rfl⟩ := List.mem_map.mp hl
      exact lacks_inputLine h property
    · simp
  exact (((balances_decorator h).append
    (balances_of_inert (List.forall_mem_singleton.mpr declared))).append
    (balances_of_lacks inputs)).append (balances_of_inert (by decide))

theorem balances_source (h : IsSound false blueprint) : Balances false [source blueprint] := by
  have header : Balances false blueprint.scriptHeader?.toList :=
    balances_of_inert fun s hs => h.inert_scriptHeader s (Option.mem_toList.mp hs)
  have imports : Inert (importLine blueprint) := by
    unfold importLine
    split <;> decide
  have exports : Inert ("export default " ++ blueprint.name) := .append (by decide) h.inert_name
  have types : Balances false
      (if blueprint.config.typescript then [joinLines (blueprint.interface "")] else []) := by
    split
    · exact h.balances_interface
    · exact balances_nil
  have body :
      Balances false [joinLines (classLines blueprint), "export default " ++ blueprint.name] :=
    (balances_class h).join.cons (balances_of_inert (List.forall_mem_singleton.mpr exports))
  exact (balances_joinSections (((header.append
    (balances_of_inert (List.forall_mem_singleton.mpr imports))).append types).append body)).newline

end Handoff.Component.Angular
