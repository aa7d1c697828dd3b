import Handoff.Component.Blueprint
import Handoff.Proofs.Component.File
import Handoff.Proofs.Component.Name
import Handoff.Proofs.Markup.Layout
import Handoff.Proofs.Markup.Root
import Handoff.Proofs.Markup.Source

/-! # What all frameworks write

Names and headers hold nothing that could be read as markup, and default values no opening brackets.
The tag of the root stays open, whatever is bound in it, and the body of the drawing is balanced.
-/

namespace Handoff.Component

open Markup Text

/-- A string has only characters that can stand in the name of an attribute. -/
def IsWordy (s : String) : Prop := ∀ c ∈ s.toList, continuesAttribute c = true

instance (s : String) : Decidable (IsWordy s) := inferInstanceAs (Decidable (∀ c ∈ _, _))

/-- What the texts of a component rely on. -/
structure IsSound (jsx : Bool) (blueprint : Blueprint) : Prop where
  named : ∀ c ∈ blueprint.name.toList, c.isAlphanum = true
  first : ∀ c ∈ blueprint.name.toList.head?, c.isAlpha = true
  ne_nil : blueprint.name.toList ≠ []
  classed : IsWordy blueprint.className
  styled : IsWordy blueprint.stylesheet
  headed : ∀ line ∈ blueprint.header, Inert line
  drawn : ∃ m, IsDrawn jsx blueprint.root m

variable {jsx : Bool} {blueprint : Blueprint} {s heritage lead binding label remainder : String}
  {c : Char} {value : List Char}

/-! ## Names -/

theorem IsWordy.append {a b : String} (ha : IsWordy a) (hb : IsWordy b) : IsWordy (a ++ b) := by
  rw [IsWordy, String.toList_append]
  exact List.forall_mem_append.mpr ⟨ha, hb⟩

theorem IsWordy.inert (h : IsWordy s) : Inert s :=
  ⟨lacks_of_forall h (by decide), lacks_of_forall h (by decide)⟩

theorem IsWordy.free (h : IsWordy s) : ∀ c ∈ s.toList, c ≠ '<' ∧ c ≠ '>' :=
  fun c hc => unbracketed_of_continuesAttribute (h c hc)

theorem continuesAttribute_of_isAlphanum (h : c.isAlphanum = true) :
    continuesAttribute c = true := by
  simp [continuesAttribute, isWord_of_isAlphanum (toNat_lt_of_isAlphanum h) h]

theorem continuesAttribute_of_isClassChar (h : isClassChar c = true) :
    continuesAttribute c = true := by
  simp only [isClassChar, Bool.or_eq_true, beq_iff_eq] at h
  rcases h with h | rfl
  · exact continuesAttribute_of_isAlphanum h
  · decide

theorem isWordy_classOfString (name : String) : IsWordy (classOfString name) := by
  rw [IsWordy, classOfString, String.toList_ofList]
  exact fun c hc => continuesAttribute_of_isClassChar (isClassChar_classOf _ c hc)

theorem IsSound.isWordy_name (h : IsSound jsx blueprint) : IsWordy blueprint.name :=
  fun c hc => continuesAttribute_of_isAlphanum (h.named c hc)

theorem IsSound.inert_name (h : IsSound jsx blueprint) : Inert blueprint.name :=
  h.isWordy_name.inert

theorem isWordy_fileName {name : String} (h : IsWordy name) (config : Config) :
    IsWordy (Stylesheet.fileName name config) := by
  have endings : IsWordy (stylesheetEnding config) := by
    unfold stylesheetEnding Stylesheet.scriptExtension
    cases Stylesheet.effectiveStyling config <;> cases config.typescript <;> decide
  rw [stylesheet_fileName_eq]
  exact h.append endings

/-! ## Headers and interfaces -/

theorem inert_headerLines (config : Config) : ∀ line ∈ headerLines config none, Inert line := by
  unfold headerLines
  cases config.componentLibrary <;> decide

theorem inert_headed (h : IsSound jsx blueprint) (hl : Inert lead) :
    ∀ line ∈ blueprint.headed lead, Inert line := by
  intro line hm
  obtain ⟨text, ht, rfl⟩ := List.mem_map.mp hm
  exact hl.append (List.forall_mem_cons.mpr ⟨h.inert_name, h.headed⟩ text ht)

theorem IsSound.inert_scriptHeader (h : IsSound jsx blueprint) :
    ∀ s ∈ blueprint.scriptHeader?, Inert s := by
  unfold Blueprint.scriptHeader?
  split
  · simp
  · intro s hs
    cases hs
    refine inert_intercalate (by decide) ?_
    exact List.forall_mem_append.mpr ⟨List.forall_mem_append.mpr
      ⟨by decide, inert_headed h (by decide)⟩, by decide⟩

theorem balances_joinSections {sections : List String} (h : Balances jsx sections) :
    Balances jsx [joinSections sections] :=
  h.intercalate (by decide) (by decide) opens_newline

theorem clean_joinSections {sections : List String} (h : ∀ s ∈ sections, Clean s.toList) :
    Clean (joinSections sections).toList :=
  clean_intercalate (by decide) (by decide) (by decide) h

/-- Below the header of a piece of markup, lines balance as before. -/
theorem IsSound.balances_headed (h : IsSound jsx blueprint) (hs : Balances jsx [s]) :
    Balances jsx [blueprint.markupHeader ++ s] := by
  unfold Blueprint.markupHeader
  split
  · simpa using hs
  · have lines : Balances jsx (["<!--"] ++ blueprint.headed "  " ++ ["-->"]) :=
      .append (.append (balances_of_spells spells_commentStart)
        (balances_of_inert (inert_headed h (by decide)))) (balances_of_inert (by decide))
    exact lines.join.below hs

theorem inert_propertyName (property : Property) : Inert property.name := by
  cases property <;> decide

theorem inert_typeName (property : Property) : Inert property.typeName := by
  cases property <;> decide

theorem inert_members (config : Config) :
    ∀ line ∈ (Property.all config).map (fun property => "  " ++ property.member) ++ ["\x7d"],
      Inert line := by
  refine List.forall_mem_append.mpr ⟨?_, by decide⟩
  intro line hl
  obtain ⟨property, -, rfl⟩ := List.mem_map.mp hl
  exact .append (by decide)
    (.append (.append (inert_propertyName property) (by decide)) (inert_typeName property))

theorem IsSound.inert_interface (h : IsSound jsx blueprint) (hh : Inert heritage) :
    ∀ line ∈ blueprint.interface heritage, Inert line := by
  have first : Inert ("export interface " ++ blueprint.name ++ "Props" ++ heritage ++ " \x7b") := by
    refine Inert.append (Inert.append (Inert.append (.append ?_ h.inert_name) ?_) hh) ?_ <;> decide
  rw [Blueprint.interface, interfaceLines, List.append_assoc]
  exact List.forall_mem_append.mpr ⟨List.forall_mem_singleton.mpr first, inert_members _⟩

theorem IsSound.balances_interface (h : IsSound jsx blueprint) :
    Balances jsx [joinLines (blueprint.interface "")] :=
  (balances_of_inert (h.inert_interface (by decide))).join

theorem inert_indented (h : Inert s) (spaces : Nat) : Inert (indented spaces s) := by
  have lacks {c : Char} (hc : c ≠ ' ') : Lacks c (String.ofList (List.replicate spaces ' ')) := by
    rw [Lacks, String.toList_ofList]
    exact not_mem_indent spaces hc
  exact .append ⟨lacks (by decide), lacks (by decide)⟩ h

/-! ## Default values -/

/-- A character of a string literal stands for itself, perhaps behind a backslash. -/
theorem literalChar_cases (c : Char) :
    (literalChar c = ['\\', c] ∧ IsSeam c) ∨ literalChar c = [c] := by
  unfold literalChar
  split
  · rename_i hc
    obtain rfl := eq_of_beq hc
    exact .inl ⟨rfl, by decide⟩
  · split
    · rename_i hc
      obtain rfl := eq_of_beq hc
      exact .inl ⟨rfl, by decide⟩
    · exact .inr rfl

theorem not_mem_stringLiteral (h : '<' ∉ value) : '<' ∉ stringLiteral value := by
  have inner : '<' ∉ value.flatMap literalChar := by
    intro hm
    obtain ⟨c, hc, hd⟩ := List.mem_flatMap.mp hm
    have self : '<' = c := by
      rcases literalChar_cases c with ⟨he, -⟩ | he <;> simpa [he] using hd
    exact h (self ▸ hc)
  simpa [stringLiteral] using inner

theorem prefix_of_flatMap {word : List Char} (hw : '\\' ∉ word)
    (h : word <+: value.flatMap literalChar) : word <+: value := by
  induction value generalizing word with
  | nil => exact h
  | cons c value ih =>
    cases word with
    | nil => exact List.nil_prefix
    | cons d word =>
      obtain ⟨hd, hw⟩ := not_or.mp (List.mem_cons.not.mp hw)
      rw [List.flatMap_cons] at h
      rcases literalChar_cases c with ⟨he, -⟩ | he
      · rw [he, List.cons_append, List.cons_prefix_cons] at h
        exact absurd h.1.symm hd
      · rw [he, List.singleton_append, List.cons_prefix_cons] at h
        exact List.cons_prefix_cons.mpr ⟨h.1, ih hw h.2⟩

theorem startsPlain_of_flatMap (h : startsPlain (value.flatMap literalChar) = true) :
    startsPlain value = true := by
  simp only [startsPlain, Bool.or_eq_true, List.isPrefixOf_iff_prefix] at h ⊢
  exact h.imp (prefix_of_flatMap (by decide)) (prefix_of_flatMap (by decide))

theorem isClean_flatMap {before : Option Char} (h : isClean before value = true) :
    isClean before (value.flatMap literalChar) = true := by
  induction value generalizing before with
  | nil => rfl
  | cons c value ih =>
    have later := ih (Bool.and_eq_true_iff.mp h).2
    rcases literalChar_cases c with ⟨he, seam⟩ | he
    · have slash : IsSeam '\\' := by decide
      rw [List.flatMap_cons, he]
      simp [isClean, startsPlain_seam slash, startsPlain_seam seam, later]
    · have split : (c :: value).flatMap literalChar = c :: value.flatMap literalChar := by
        rw [List.flatMap_cons, he]
        rfl
      rw [isClean, Bool.and_eq_true, Bool.not_eq_true', Bool.and_eq_false_iff] at h
      rw [split, isClean, later, Bool.and_true, Bool.not_eq_true', Bool.and_eq_false_iff]
      refine h.1.imp_right fun plain => eq_false_of_ne_true fun starts => ?_
      exact ne_true_of_eq_false plain (startsPlain_of_flatMap (split ▸ starts))

theorem clean_stringLiteral (h : Clean value) : Clean (stringLiteral value) := by
  have quote : Clean ['\''] := by decide
  have inner : Clean (value.flatMap literalChar) := isClean_flatMap h
  exact (quote.append inner (.inl (by decide))).append quote (.inr (by decide))

theorem clean_defaultLiteral (h : Clean value) : Clean (defaultLiteral value) := by
  unfold defaultLiteral
  split
  · exact h
  · exact clean_stringLiteral h

theorem not_mem_defaultLiteral (h : '<' ∉ value) : '<' ∉ defaultLiteral value := by
  unfold defaultLiteral
  split
  · exact h
  · exact not_mem_stringLiteral h

theorem IsSound.default (h : IsSound jsx blueprint) (property : Property) :
    ∀ s ∈ blueprint.default? property, Lacks '<' s ∧ Clean s.toList := by
  obtain ⟨m, drawn⟩ := h.drawn
  have literal (name : String) : ∀ s ∈ (blueprint.root.value? name).map
      fun value => String.ofList (defaultLiteral value), Lacks '<' s ∧ Clean s.toList := by
    intro s hs
    obtain ⟨value, hv, rfl⟩ := Option.map_eq_some_iff.mp hs
    obtain ⟨free, clean⟩ := drawn.value hv
    rw [Lacks, String.toList_ofList]
    exact ⟨not_mem_defaultLiteral free, clean_defaultLiteral clean⟩
  cases property with
  | className =>
    intro s hs
    cases hs
    rw [Lacks, String.toList_ofList, classDefault]
    cases hv : blueprint.root.value? "className" with
    | none => decide
    | some value =>
      obtain ⟨free, clean⟩ := drawn.value hv
      exact ⟨not_mem_stringLiteral free, clean_stringLiteral clean⟩
  | title =>
    intro s hs
    cases hs
    have inert : Inert ("'" ++ blueprint.name ++ "'") :=
      .append (.append (by decide) h.inert_name) (by decide)
    exact ⟨inert.bracket, inert.clean⟩
  | width => exact literal _
  | height => exact literal _
  | fill => exact literal _
  | stroke => exact literal _

theorem IsSound.lacks_default (h : IsSound jsx blueprint) (property : Property) :
    Lacks '<' (blueprint.defaultOrUndefined property) := by
  unfold Blueprint.defaultOrUndefined
  cases hd : blueprint.default? property with
  | none => decide
  | some s => exact (h.default property s hd).1

/-! ## The tag of the root -/

def rootTail (blueprint : Blueprint) (binding label remainder : String) : String :=
  if blueprint.config.passProps then
    Blueprint.rootAttributes (blueprint.root.without Property.boundNames) ++ binding ++
      (if blueprint.isLabelled then " role=\"img\"" ++ label else "") ++ remainder
  else Blueprint.rootAttributes blueprint.root.attributes ++ blueprint.fixedLabel

theorem toList_rootTag (blueprint : Blueprint) (binding label remainder : String) :
    (blueprint.rootTag binding label remainder).toList =
      '<' :: rootName ++ (rootTail blueprint binding label remainder).toList ++ ['>'] := by
  have split : blueprint.rootTag binding label remainder =
      "<svg" ++ rootTail blueprint binding label remainder ++ ">" := by
    unfold Blueprint.rootTag rootTail
    split <;> simp only [String.append_assoc]
  rw [split, String.toList_append, String.toList_append]
  rfl

/-- A property of all parts of the tag is one of the whole, if it is kept when texts are put
together. -/
theorem rootTail_of_parts {P : List Char → Prop} (nil : P [])
    (append : ∀ {x y}, P x → P y → P (x ++ y))
    (entries : ∀ entry ∈ blueprint.root.attributes, P entry.render) (hb : P binding.toList)
    (role : P " role=\"img\"".toList) (hl : P label.toList) (hr : P remainder.toList)
    (fixed : P blueprint.fixedLabel.toList) :
    P (rootTail blueprint binding label remainder).toList := by
  have some (attributes : List Attribute) (h : ∀ entry ∈ attributes, P entry.render) :
      P (Blueprint.rootAttributes attributes).toList := by
    rw [Blueprint.rootAttributes, String.toList_ofList]
    induction attributes with
    | nil => exact nil
    | cons entry attributes ih =>
      obtain ⟨first, others⟩ := List.forall_mem_cons.mp h
      exact append first (ih others)
  unfold rootTail
  split
  · have labelled : P (if blueprint.isLabelled then " role=\"img\"" ++ label else "").toList := by
      split
      · exact String.toList_append ▸ append role hl
      · exact nil
    rw [String.toList_append, String.toList_append, String.toList_append]
    refine append (append (append (some _ fun entry he => ?_) hb) labelled) hr
    exact entries entry (List.mem_filter.mp he).1
  · rw [String.toList_append]
    exact append (some _ entries) fixed

theorem IsSound.isOpenTail_rootTail (h : IsSound jsx blueprint) (hb : IsOpenTail binding.toList)
    (hl : IsOpenTail label.toList) (hr : IsOpenTail remainder.toList) :
    IsOpenTail (rootTail blueprint binding label remainder).toList := by
  obtain ⟨m, drawn⟩ := h.drawn
  refine rootTail_of_parts isOpenTail_nil IsOpenTail.append (fun entry he => ?_) hb
    (by decide) hl hr ?_
  · obtain ⟨source, rfl⟩ := drawn.assigned entry he
    exact source.isOpenTail_toAttribute
  · unfold Blueprint.fixedLabel
    split
    · exact isOpenTail_around (by decide) (by decide) h.isWordy_name.free (by decide) (by decide)
    · exact isOpenTail_nil

theorem IsSound.isTag_rootTag (h : IsSound jsx blueprint) (hb : IsOpenTail binding.toList)
    (hl : IsOpenTail label.toList) (hr : IsOpenTail remainder.toList) :
    IsTag jsx (blueprint.rootTag binding label remainder).toList [⟨false, rootName⟩] := by
  rw [toList_rootTag]
  exact (h.isOpenTail_rootTail hb hl hr).isTag isTagName_rootName (.inr (by decide))

theorem IsSound.isTag_plainRootTag (h : IsSound jsx blueprint) (hb : IsOpenTail binding.toList)
    (hl : IsOpenTail label.toList) :
    IsTag jsx (blueprint.plainRootTag binding label).toList [⟨false, rootName⟩] := by
  have tail : IsOpenTail (rootTail blueprint binding label "").toList :=
    h.isOpenTail_rootTail hb hl (by decide)
  have renamed := mapNames_opening (imageOf plainPairs) isTagName_rootName tail.toIsTagTail []
  rw [mapNames_nil, List.append_nil, List.append_nil] at renamed
  rw [Blueprint.plainRootTag, toPlain, String.toList_ofList, toList_rootTag,
    toPlainNames_eq, renamed]
  exact (tail.mapNames keepsNames_plain).isTag isTagName_rootName (.inr (by decide))

/-- A binding has the class of the component between texts of its own. -/
theorem IsSound.isOpenTail_binding (h : IsSound jsx blueprint) {front back rest : String}
    (fixed : ∀ text ∈ [front, back, rest], IsOpenTail text.toList)
    (solid : ∃ c ∈ front.toList, isSpace c = false) (ne : back.toList ≠ []) :
    IsOpenTail (front ++ blueprint.className ++ back ++ rest).toList := by
  simp only [List.forall_mem_cons] at fixed
  obtain ⟨hf, hb, hr, -⟩ := fixed
  rw [String.toList_append]
  exact (isOpenTail_around hf solid h.classed.free hb ne).append hr

theorem IsSound.isTag_boundRootTag (h : IsSound jsx blueprint) {front back rest : String}
    (fixed : ∀ text ∈ [front, back, rest], IsOpenTail text.toList)
    (solid : ∃ c ∈ front.toList, isSpace c = false) (ne : back.toList ≠ [])
    (hl : IsOpenTail label.toList) :
    IsTag jsx (blueprint.plainRootTag (front ++ blueprint.className ++ back ++ rest) label).toList
      [⟨false, rootName⟩] :=
  h.isTag_plainRootTag (h.isOpenTail_binding fixed solid ne) hl

/-- A clean text in front of which no plain name can go on. -/
def IsLed (text : List Char) : Prop := Clean text ∧ ∀ c ∈ text.head?, IsSeam c

instance (text : List Char) : Decidable (IsLed text) := inferInstanceAs (Decidable (_ ∧ _))

theorem IsLed.append {x y : List Char} (hx : IsLed x) (hy : IsLed y) : IsLed (x ++ y) := by
  refine ⟨hx.1.append hy.1 (.inr hy.2), ?_⟩
  cases x with
  | nil => exact hy.2
  | cons c x => exact hx.2

theorem isLed_around {a b : String} (ha : IsLed a.toList) (ends : ∀ c ∈ a.toList.getLast?, IsSeam c)
    (ne : a.toList ≠ []) (hs : Inert s) (hb : IsLed b.toList) : IsLed (a ++ s ++ b).toList := by
  have front : IsLed (a.toList ++ s.toList) := by
    refine ⟨ha.1.append hs.clean (.inl ends), ?_⟩
    rw [List.head?_append_of_ne_nil _ ne]
    exact ha.2
  rw [String.toList_append, String.toList_append]
  exact front.append hb

theorem IsSound.clean_rootTag (h : IsSound jsx blueprint) (hb : IsLed binding.toList)
    (hl : IsLed label.toList) (hr : IsLed remainder.toList) :
    Clean (blueprint.rootTag binding label remainder).toList := by
  obtain ⟨m, drawn⟩ := h.drawn
  have tail : IsLed (rootTail blueprint binding label remainder).toList := by
    refine rootTail_of_parts (by decide) IsLed.append (fun entry he => ?_) hb (by decide) hl hr ?_
    · refine ⟨drawn.clean entry he, fun c hc => ?_⟩
      cases hc
      decide
    · unfold Blueprint.fixedLabel
      split
      · exact isLed_around (by decide) (by decide) (by decide) h.inert_name (by decide)
      · decide
  have name : Clean ('<' :: rootName) := by decide
  have bracket : Clean ['>'] := by decide
  rw [toList_rootTag]
  exact (name.append tail.1 (.inr tail.2)).append bracket (.inr (by decide))

/-! ## The drawing -/

theorem clean_indented_line (h : Clean s.toList) (spaces : Nat) :
    Clean (indented spaces s).toList := by
  rw [indented, String.toList_append, String.toList_ofList]
  exact clean_indented h spaces

theorem spells_indented_tag {tag : String} {m : List Mark} (h : IsTag jsx tag.toList m)
    (spaces : Nat) :
    Spells jsx (indented spaces tag).toList m := by
  rw [indented, String.toList_append, String.toList_ofList]
  exact spells_indented h.spells spaces

theorem isTag_rootEnd : IsTag jsx "</svg>".toList [⟨true, rootName⟩] := .closing isTagName_rootName

theorem IsSound.balances_body (h : IsSound jsx blueprint) (indent : Nat) :
    Balances jsx (blueprint.bodyLines indent) := by
  obtain ⟨m, drawn⟩ := h.drawn
  exact ⟨m, drawn.woven.spells_layout indent defaultStep, drawn.balanced⟩

theorem IsSound.clean_body (h : IsSound jsx blueprint) (indent : Nat) :
    ∀ line ∈ blueprint.bodyLines indent, Clean line.toList := by
  obtain ⟨m, drawn⟩ := h.drawn
  intro line hl
  obtain ⟨text, ht, rfl⟩ := List.mem_map.mp hl
  rw [String.toList_ofList]
  exact drawn.woven.clean_layout drawn.clean_inner indent defaultStep text ht

theorem IsSound.balances_plainBody (h : IsSound jsx blueprint) (indent : Nat) :
    Balances jsx (blueprint.plainBodyLines indent) := by
  obtain ⟨m, drawn⟩ := h.drawn
  have plain := drawn.woven.mapNames keepsNames_plain
  rw [← toPlainNames_eq] at plain
  exact ⟨m, plain.spells_layout indent defaultStep, drawn.balanced⟩

end Handoff.Component
