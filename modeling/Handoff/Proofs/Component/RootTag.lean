import Handoff.Proofs.Component.Blueprint
import Handoff.Proofs.Component.Drawing
import Handoff.Proofs.Markup.Entry

/-! # The attributes of the root

The tag of the root has the attributes of the drawing, the bindings of the properties, and a label.
An attribute of the drawing gives way to the property of its name, but not to the label and not to a
binding under another name. So no attribute stands there twice exactly if the drawing has none that
is added.
-/

namespace Handoff.Component

open Markup

def quoted (name value : String) : Attribute := ⟨name.toList, '"' :: value.toList ++ ['"']⟩

def braced (name value : String) : Attribute := ⟨name.toList, '\x7b' :: value.toList ++ ['\x7d']⟩

/-- The properties of the size and the paint, which are bound as they are. -/
def passedNames : List String := ["width", "height", "fill", "stroke"]

def bindings (className : String) : Framework → List Attribute
  | .react =>
    braced "className" ("`" ++ className ++ " $\x7bclassName\x7d`.trim()") ::
      passedNames.map fun name => braced name name
  | .vue =>
    quoted "class" className :: quoted ":class" "className" ::
      passedNames.map fun name => quoted (":" ++ name) name
  | .angular =>
    quoted "[attr.class]" ("'" ++ className ++ " ' + className") ::
      passedNames.map fun name => quoted ("[attr." ++ name ++ "]") name
  | .svelte =>
    quoted "class" (className ++ " \x7bclassName\x7d") :: passedNames.map fun name =>
      braced name name

def titleBinding : Framework → Attribute
  | .react | .svelte => braced "aria-label" "title"
  | .vue => quoted ":aria-label" "title"
  | .angular => quoted "[attr.aria-label]" "title"

def addedEntries (blueprint : Blueprint) : List Attribute :=
  if blueprint.config.passProps then
    bindings blueprint.className blueprint.config.framework ++
      if blueprint.isLabelled then [quoted "role" "img", titleBinding blueprint.config.framework]
        else []
  else if blueprint.isLabelled then [quoted "role" "img", quoted "aria-label" blueprint.name]
  else []

def keptEntries (blueprint : Blueprint) : List Attribute :=
  if blueprint.config.passProps then blueprint.root.without Property.boundNames
  else blueprint.root.attributes

/-- The attributes of the drawing that stay, in the dialect of the framework. -/
def ownEntries (blueprint : Blueprint) : List Attribute :=
  if blueprint.config.isJsx then keptEntries blueprint
  else (keptEntries blueprint).map Attribute.toPlain

/-- What the tag of a root relies on. -/
structure IsMade (blueprint : Blueprint) : Prop where
  named : IsWordy blueprint.name
  classed : IsWordy blueprint.className
  marked : ∀ entry ∈ blueprint.root.attributes,
    entry.IsMarked ∧ ∀ c ∈ entry.name, continuesAttribute c = true

variable {blueprint : Blueprint} {binding label remainder name value : String} {c : Char}

theorem isMade_blueprint (markup name : String) (config : Config) (origin : Option DesignFile) :
    IsMade (Component.blueprint markup (nameOfString name) config origin) := by
  have letters : ∀ c ∈ (nameOfString name).toList, continuesAttribute c = true := by
    rw [nameOfString, String.toList_ofList]
    exact fun c hc => continuesAttribute_of_isAlphanum (isAlphanum_nameOf name.toList c hc)
  have marked := splitRoot_marked (normalForm markup.toList)
  unfold Component.blueprint
  generalize splitRoot (normalForm markup.toList) = root at marked ⊢
  exact ⟨letters, isWordy_classOfString _, marked⟩

/-! ## Attributes that are added -/

/-- An attribute that is read as it is written and that stands in both dialects alike. -/
structure IsCommon (entry : Attribute) : Prop where
  legible : entry.IsLegible
  ends : ∃ inner c, entry.value = inner ++ [c] ∧ IsBar c
  plain : entry.toPlain = entry

def IsCommonName (name : String) : Prop :=
  name.toList ≠ [] ∧ (∀ c ∈ name.toList, namesAttribute c = true) ∧
    toPlainNames (name.toList ++ ['=']) = name.toList ++ ['=']

instance (name : String) : Decidable (IsCommonName name) := inferInstanceAs (Decidable (_ ∧ _ ∧ _))

theorem isCommonName_passed : ∀ name ∈ passedNames, IsWordy name ∧ IsCommonName name ∧
    IsCommonName (":" ++ name) ∧ IsCommonName ("[attr." ++ name ++ "]") := by
  decide +kernel

theorem toPlainNames_of_not_mem {text : List Char} (h : '=' ∉ text) : toPlainNames text = text := by
  have kept := mapNames_append_of_not_mem (imageOf plainPairs) h (y := []) rfl parted_nil
  rwa [mapNames_nil, List.append_nil, ← toPlainNames_eq] at kept

theorem isCommon_of_marks {mark closing : Char} (kind : closingMark? mark = some closing)
    (named : IsCommonName name) (other : mark ≠ '=') (free : Lacks closing value)
      (plain : Lacks '=' value) :
    IsCommon ⟨name.toList, mark :: value.toList ++ [closing]⟩ := by
  obtain ⟨ne, names, kept⟩ := named
  have marked : Attribute.IsMarked ⟨name.toList, mark :: value.toList ++ [closing]⟩ :=
    ⟨ne, names, mark, closing, value.toList, kind, free, rfl⟩
  refine ⟨marked.isLegible, marked.ends, ?_⟩
  have bar := (barred_of_closingMark? kind).2
  have unassigned : '=' ∉ mark :: value.toList ++ [closing] := by
    simp only [List.cons_append, List.mem_cons, List.mem_append, List.not_mem_nil, or_false, not_or]
    exact ⟨other.symm, plain, bar.ne.symm⟩
  rw [Attribute.toPlain, kept, List.dropLast_concat, toPlainNames_of_not_mem unassigned]

theorem isCommon_quoted (named : IsCommonName name) (free : Lacks '"' value)
    (plain : Lacks '=' value) :
    IsCommon (quoted name value) :=
  isCommon_of_marks rfl named (by decide) free plain

theorem isCommon_braced (named : IsCommonName name) (free : Lacks '\x7d' value)
    (plain : Lacks '=' value) :
    IsCommon (braced name value) :=
  isCommon_of_marks rfl named (by decide) free plain

theorem IsWordy.lacks (h : IsWordy value) (hc : continuesAttribute c = false) : Lacks c value :=
  lacks_of_forall h hc

/-- Outside of JSX, all bindings stand in both dialects alike. -/
theorem isCommon_bindings (classed : IsWordy value) {framework : Framework}
    (other : framework ≠ .react) :
    ∀ entry ∈ bindings value framework, IsCommon entry := by
  have passed := isCommonName_passed
  cases framework with
  | react => exact absurd rfl other
  | vue =>
    refine List.forall_mem_cons.mpr ⟨isCommon_quoted (by decide +kernel) (classed.lacks (by decide))
      (classed.lacks (by decide)), List.forall_mem_cons.mpr
        ⟨isCommon_quoted (by decide +kernel) (by decide)
      (by decide), List.forall_mem_map.mpr fun name hn => ?_⟩⟩
    obtain ⟨wordy, -, named, -⟩ := passed name hn
    exact isCommon_quoted named (wordy.lacks (by decide)) (wordy.lacks (by decide))
  | angular =>
    have literal {c : Char} (front : Lacks c "'") (inner : Lacks c value)
        (back : Lacks c " ' + className") :
        Lacks c ("'" ++ value ++ " ' + className") := (front.append inner).append back
    refine List.forall_mem_cons.mpr ⟨isCommon_quoted (by decide +kernel)
      (literal (by decide) (classed.lacks (by decide)) (by decide))
      (literal (by decide) (classed.lacks (by decide)) (by decide)),
      List.forall_mem_map.mpr fun name hn => ?_⟩
    obtain ⟨wordy, -, -, named⟩ := passed name hn
    exact isCommon_quoted named (wordy.lacks (by decide)) (wordy.lacks (by decide))
  | svelte =>
    refine List.forall_mem_cons.mpr ⟨isCommon_quoted (by decide +kernel)
      ((classed.lacks (by decide)).append (by decide))
        ((classed.lacks (by decide)).append (by decide)),
      List.forall_mem_map.mpr fun name hn => ?_⟩
    obtain ⟨wordy, named, -⟩ := passed name hn
    exact isCommon_braced named (wordy.lacks (by decide)) (wordy.lacks (by decide))

/-- The braces in the class of a component for React close nothing, as the expression goes on behind
them. -/
theorem isLegible_reactClass (classed : IsWordy value) :
    (braced "className" ("`" ++ value ++ " $\x7bclassName\x7d`.trim()")).IsLegible := by
  have named : ∀ c ∈ "className".toList, namesAttribute c = true := by decide
  refine ⟨List.cons_ne_nil _ _, named, '\x7b',
    ("`" ++ value ++ " $\x7bclassName\x7d`.trim()").toList ++ ['\x7d'], rfl, fun rest hr => ?_⟩
  have split : ("`" ++ value ++ " $\x7bclassName\x7d`.trim()").toList ++ ['\x7d'] ++ rest =
      ("`" ++ value ++ " $\x7bclassName").toList ++
        ('\x7d' :: ("`.trim()".toList ++ '\x7d' :: rest)) := by
    simp
  have kind : closingMark? '\x7b' = some '\x7d' := rfl
  have unclosed {text : String} (free : Lacks '\x7d' text) :
      ∀ c ∈ text.toList, closingMark? '\x7b' ≠ some c := by
    rintro c hc same
    cases same
    exact free hc
  have front : Lacks '\x7d' ("`" ++ value ++ " $\x7bclassName") :=
    (Lacks.append (by decide) (classed.lacks (by decide))).append (by decide)
  have open_ : closesValue '\x7b' '\x7d' ("`.trim()".toList ++ '\x7d' :: rest) = false := by
    have goes : breaksTag '`' = false := by decide
    simp [closesValue, goes]
  rw [split, throughClosing?_append (unclosed front), throughClosing?, open_,
    if_neg Bool.false_ne_true,
    throughClosing?_append (unclosed (by decide)), throughClosing?_closing kind hr]
  simp

theorem isLegible_bindings (classed : IsWordy value) (framework : Framework) :
    ∀ entry ∈ bindings value framework, entry.IsLegible := by
  cases framework with
  | react =>
    refine List.forall_mem_cons.mpr ⟨isLegible_reactClass classed,
      List.forall_mem_map.mpr fun name hn => ?_⟩
    obtain ⟨wordy, named, -⟩ := isCommonName_passed name hn
    exact (isCommon_braced named (wordy.lacks (by decide)) (wordy.lacks (by decide))).legible
  | vue => exact fun entry he => (isCommon_bindings classed (by decide) entry he).legible
  | angular => exact fun entry he => (isCommon_bindings classed (by decide) entry he).legible
  | svelte => exact fun entry he => (isCommon_bindings classed (by decide) entry he).legible

theorem isCommon_titleBinding (framework : Framework) : IsCommon (titleBinding framework) := by
  cases framework with
  | react => exact isCommon_braced (by decide +kernel) (by decide) (by decide)
  | vue => exact isCommon_quoted (by decide +kernel) (by decide) (by decide)
  | angular => exact isCommon_quoted (by decide +kernel) (by decide) (by decide)
  | svelte => exact isCommon_braced (by decide +kernel) (by decide) (by decide)

/-- What holds of the bindings and of whatever stands in both dialects alike holds of all that is
added. -/
theorem forall_addedEntries {P : Attribute → Prop} (h : IsMade blueprint)
    (bound : ∀ entry ∈ bindings blueprint.className blueprint.config.framework, P entry)
    (common : ∀ entry, IsCommon entry → P entry) : ∀ entry ∈ addedEntries blueprint, P entry := by
  have role : P (quoted "role" "img") :=
    common _ (isCommon_quoted (by decide +kernel) (by decide) (by decide))
  have fixed : P (quoted "aria-label" blueprint.name) :=
    common _ (isCommon_quoted (by decide +kernel) (h.named.lacks (by decide))
      (h.named.lacks (by decide)))
  have title := common _ (isCommon_titleBinding blueprint.config.framework)
  unfold addedEntries
  split
  · refine List.forall_mem_append.mpr ⟨bound, ?_⟩
    split
    · exact List.forall_mem_cons.mpr ⟨role, List.forall_mem_singleton.mpr title⟩
    · simp
  · split
    · exact List.forall_mem_cons.mpr ⟨role, List.forall_mem_singleton.mpr fixed⟩
    · simp

/-! ## The tag as it is written -/

theorem renderAttributes_append (first second : List Attribute) :
    renderAttributes (first ++ second) = renderAttributes first ++ renderAttributes second :=
  List.flatMap_append

/-- The attributes of a tag in JSX, given how the properties and the title are bound. -/
theorem toList_rootTag_eq
    (bound : binding.toList = renderAttributes
      (bindings blueprint.className blueprint.config.framework))
    (titled : label.toList = (titleBinding blueprint.config.framework).render) :
    (blueprint.rootTag binding label remainder).toList =
      "<svg".toList ++ (renderAttributes (keptEntries blueprint ++ addedEntries blueprint) ++
        ((if blueprint.config.passProps then remainder else "").toList ++ ['>'])) := by
  have role : " role=\"img\"".toList = (quoted "role" "img").render := rfl
  have fixed : blueprint.fixedLabel.toList = renderAttributes
      (if blueprint.isLabelled then [quoted "role" "img", quoted "aria-label" blueprint.name]
        else []) := by
    unfold Blueprint.fixedLabel
    split
    · simp [renderAttributes, Attribute.render, quoted]
    · rfl
  unfold Blueprint.rootTag keptEntries addedEntries Blueprint.rootAttributes
  split
  case isTrue =>
    have label_ : (if blueprint.isLabelled then " role=\"img\"" ++ label else "").toList =
        renderAttributes (if blueprint.isLabelled then
          [quoted "role" "img", titleBinding blueprint.config.framework] else []) := by
      split
      · rw [String.toList_append, role, titled]
        simp [renderAttributes]
      · rfl
    simp only [String.toList_append, String.toList_ofList, bound, label_, renderAttributes_append,
      List.append_assoc]
    rfl
  case isFalse =>
    simp only [String.toList_append, String.toList_ofList, fixed, renderAttributes_append,
      List.append_assoc]
    rfl

theorem mem_keptEntries {entry : Attribute} (h : entry ∈ keptEntries blueprint) :
    entry ∈ blueprint.root.attributes := by
  unfold keptEntries at h
  split at h
  · exact (List.mem_filter.mp h).1
  · exact h

theorem parted_of_breaks {rest : List Char} (h : Breaks rest) : Parted rest := by
  intro c hc
  rcases Bool.or_eq_true_iff.mp (h c hc) with space | same
  · exact continuesName_of_isSpace space
  · rw [eq_of_beq same]
    decide

theorem toPlainNames_root {rest : List Char} (h : Parted rest) :
    toPlainNames ("<svg".toList ++ rest) = "<svg".toList ++ toPlainNames rest := by
  have name : IsName "svg".toList := ⟨by decide, by decide⟩
  have kept : imageOf plainPairs "svg".toList = "svg".toList := by decide +kernel
  have split (text : List Char) : "<svg".toList ++ text = '<' :: ("svg".toList ++ text) := rfl
  rw [split, split, toPlainNames_eq, toPlainNames_eq, mapNames_cons _ isBar_lt.parts,
    mapNames_run _ name h, kept, ite_self]

theorem toList_plainRootTag_eq (h : IsMade blueprint) (other : blueprint.config.framework ≠ .react)
    (bound : binding.toList = renderAttributes
      (bindings blueprint.className blueprint.config.framework))
    (titled : label.toList = (titleBinding blueprint.config.framework).render) :
    (blueprint.plainRootTag binding label).toList = "<svg".toList ++
      (renderAttributes ((keptEntries blueprint).map Attribute.toPlain ++ addedEntries blueprint) ++
        ['>']) := by
  have common : ∀ entry ∈ addedEntries blueprint, IsCommon entry :=
    forall_addedEntries h (isCommon_bindings h.classed other) fun _ common => common
  have ends : ∀ entry ∈ keptEntries blueprint ++ addedEntries blueprint,
      ∃ inner c, entry.value = inner ++ [c] ∧ IsBar c :=
    List.forall_mem_append.mpr ⟨fun entry he => (h.marked entry (mem_keptEntries he)).1.ends,
      fun entry he => (common entry he).ends⟩
  have plain : (addedEntries blueprint).map Attribute.toPlain = addedEntries blueprint :=
    (List.map_congr_left fun entry he => (common entry he).plain).trans (List.map_id _)
  have close : toPlainNames ['>'] = ['>'] := toPlainNames_of_not_mem (by decide)
  have written : (blueprint.rootTag binding label "").toList = "<svg".toList ++
      (renderAttributes (keptEntries blueprint ++ addedEntries blueprint) ++ ['>']) := by
    rw [toList_rootTag_eq bound titled, ite_self]
    rfl
  have parted :
      Parted (renderAttributes (keptEntries blueprint ++ addedEntries blueprint) ++ ['>']) :=
    parted_of_breaks (breaks_renderAttributes _ (breaks_cons (by decide) []))
  rw [Blueprint.plainRootTag, Markup.toPlain, String.toList_ofList, written,
    toPlainNames_root parted, toPlainNames_renderAttributes ends, List.map_append, plain, close]

theorem toList_rootTag_written (h : IsMade blueprint) :
    ∃ remainder ∈ ["", " \x7b...props\x7d"], (Component.rootTag blueprint).toList = "<svg".toList ++
      (renderAttributes (ownEntries blueprint ++ addedEntries blueprint) ++
        (remainder.toList ++ ['>'])) := by
  unfold Component.rootTag ownEntries Config.isJsx
  cases framework : blueprint.config.framework with
  | react =>
    refine ⟨if blueprint.config.passProps then " \x7b...props\x7d" else "", ?_, ?_⟩
    · split <;> simp
    · refine toList_rootTag_eq ?_ ?_
      · rw [framework]
        simp [bindings, passedNames, braced, renderAttributes, Attribute.render]
      · rw [framework]
        rfl
  | vue =>
    refine ⟨"", by simp, toList_plainRootTag_eq h (by simp [framework]) ?_ ?_⟩
    · rw [framework]
      simp [bindings, passedNames, quoted, renderAttributes, Attribute.render]
    · rw [framework]
      rfl
  | angular =>
    refine ⟨"", by simp, toList_plainRootTag_eq h (by simp [framework]) ?_ ?_⟩
    · rw [framework]
      simp [bindings, passedNames, quoted, renderAttributes, Attribute.render]
    · rw [framework]
      rfl
  | svelte =>
    refine ⟨"", by simp, toList_plainRootTag_eq h (by simp [framework]) ?_ ?_⟩
    · rw [framework]
      simp [bindings, passedNames, quoted, braced, renderAttributes, Attribute.render]
    · rw [framework]
      rfl

theorem isLegible_ownEntries (h : IsMade blueprint) :
    ∀ entry ∈ ownEntries blueprint, entry.IsLegible := by
  unfold ownEntries
  split
  · exact fun entry he => (h.marked entry (mem_keptEntries he)).1.isLegible
  · refine List.forall_mem_map.mpr fun entry he => ?_
    obtain ⟨marked, continues⟩ := h.marked entry (mem_keptEntries he)
    exact (marked.toPlain continues).isLegible

theorem no_entries_behind : ∀ remainder ∈ ["", " \x7b...props\x7d"],
    (∀ c ∈ (remainder.toList ++ ['>']).head?, breaksTag c = true) ∧
      entriesFrom 0 (remainder.toList ++ ['>']) = [] := by
  decide

theorem tagEntries_root {rest : List Char} (h : Breaks rest) :
    tagEntries ("<svg".toList ++ rest) = entriesFrom 0 rest := by
  have name : ∀ c ∈ "<svg".toList, (!breaksTag c) = true := by decide
  have behind : rest.dropWhile (!breaksTag ·) = rest := by
    cases rest with
    | nil => rfl
    | cons c rest => simp [h c rfl]
  rw [tagEntries, List.dropWhile_append_of_pos name, behind]

/-- The attributes that are read from the tag of the root are those that are kept and those that are
added. -/
theorem tagEntries_rootTag (h : IsMade blueprint) :
    tagEntries (Component.rootTag blueprint).toList = ownEntries blueprint ++
      addedEntries blueprint := by
  have legible : ∀ entry ∈ ownEntries blueprint ++ addedEntries blueprint, entry.IsLegible :=
    List.forall_mem_append.mpr ⟨isLegible_ownEntries h, forall_addedEntries h
      (isLegible_bindings h.classed blueprint.config.framework) fun _ common => common.legible⟩
  obtain ⟨remainder, hr, written⟩ := toList_rootTag_written h
  obtain ⟨breaks, nothing⟩ := no_entries_behind remainder hr
  rw [written, tagEntries_root (breaks_renderAttributes _ breaks),
    entriesFrom_renderAttributes legible breaks, nothing, List.append_nil]

/-! ## Attributes that stand there twice -/

def rootNames (blueprint : Blueprint) : List (List Char) :=
  (tagEntries (Component.rootTag blueprint).toList).map Attribute.name

theorem nodup_addedEntries (blueprint : Blueprint) :
    ((addedEntries blueprint).map Attribute.name).Nodup := by
  -- the names do not depend on what is bound to them
  have all (framework : Framework) (labelled : Bool) (className : String) :
      ((bindings className framework ++ if labelled then
        [quoted "role" "img", titleBinding framework]
        else []).map Attribute.name).Nodup := by
    cases framework <;> cases labelled <;>
      simp [bindings, titleBinding, passedNames, quoted, braced]
  unfold addedEntries
  split
  · exact all _ _ _
  · split
    · simp [quoted]
    · simp

theorem rootNames_nodup_blueprint_iff (h : IsMade blueprint) :
    (rootNames blueprint).Nodup ↔ ((ownEntries blueprint).map Attribute.name).Nodup ∧
      ∀ name ∈ (ownEntries blueprint).map Attribute.name,
        name ∉ (addedEntries blueprint).map Attribute.name := by
  rw [rootNames, tagEntries_rootTag h, List.map_append, List.nodup_append']
  constructor
  · rintro ⟨own, -, apart⟩
    exact ⟨own, fun name hn ha => apart hn ha⟩
  · rintro ⟨own, apart⟩
    exact ⟨own, nodup_addedEntries blueprint, fun name hn ha => apart name hn ha⟩

theorem synthesize_eq_ok {markup name : String} (named : isBlankText name = false)
    (drawn : isBlankText markup = false) (config : Config) (origin : Option DesignFile)
    (palette : List String) (stylesheet : Option String) :
    synthesize markup name config origin palette stylesheet =
      .ok (artifacts markup (nameOfString name) config origin palette stylesheet) := by
  rw [synthesize, named, drawn]
  rfl

/-- The tag of the root, as it is shown in the component of any markup, has the attributes of the
drawing that are kept, in the dialect of the framework, and behind them those that are added. It has
no attribute twice exactly if the kept ones have different names and none of them has the name of
one that is added. -/
theorem rootNames_nodup_iff (markup name : String) (config : Config) (origin : Option DesignFile)
    (palette : List String) (stylesheet : Option String) (named : isBlankText name = false)
    (drawn : isBlankText markup = false) :
    ∃ artifacts blueprint body,
      synthesize markup name config origin palette stylesheet = .ok artifacts ∧
      blueprint = Component.blueprint markup (nameOfString name) config origin ∧
      Shows (rooted blueprint body) artifacts.component.content ∧
      tagEntries (Component.rootTag blueprint).toList = ownEntries blueprint ++
        addedEntries blueprint ∧
      ((rootNames blueprint).Nodup ↔ ((ownEntries blueprint).map Attribute.name).Nodup ∧
        ∀ name ∈ (ownEntries blueprint).map Attribute.name,
          name ∉ (addedEntries blueprint).map Attribute.name) := by
  have made := isMade_blueprint markup name config origin
  exact ⟨_, _, drawnBody (Component.blueprint markup (nameOfString name) config origin),
    synthesize_eq_ok named drawn config origin palette stylesheet, rfl, shows_source _,
    tagEntries_rootTag made, rootNames_nodup_blueprint_iff made⟩

def sizedDrawing : String := "<svg viewBox=\"0 0 24 24\" stroke-width=\"2\" width=\"24\"></svg>"

theorem rootNames_nodup_sized :
    isBlankText "Icon" = false ∧ isBlankText sizedDrawing = false ∧
      ∃ artifacts blueprint body,
        synthesize sizedDrawing "Icon" { framework := .vue } none [] none = .ok artifacts ∧
        blueprint = Component.blueprint sizedDrawing (nameOfString "Icon")
          { framework := .vue } none ∧
        Shows (rooted blueprint body) artifacts.component.content ∧
        tagEntries (Component.rootTag blueprint).toList = ownEntries blueprint ++
          addedEntries blueprint ∧
        ((rootNames blueprint).Nodup ↔ ((ownEntries blueprint).map Attribute.name).Nodup ∧
          ∀ name ∈ (ownEntries blueprint).map Attribute.name,
            name ∉ (addedEntries blueprint).map Attribute.name) := by
  have named : isBlankText "Icon" = false := by decide
  have drawn : isBlankText sizedDrawing = false := by decide
  exact ⟨named, drawn, rootNames_nodup_iff sizedDrawing "Icon" { framework := .vue } none
    [] none named drawn⟩

/-- A role of the drawing stands beside the role that comes with the label. -/
theorem rootNames_repeat_role :
    ((splitRoot (normalForm "<svg role=\"img\"></svg>".toList)).attributes.map
      Attribute.name).Nodup ∧
      ∃ artifacts blueprint body,
        synthesize "<svg role=\"img\"></svg>" "Icon" {} none [] none = .ok artifacts ∧
        blueprint = Component.blueprint "<svg role=\"img\"></svg>" (nameOfString "Icon") {} none ∧
        Shows (rooted blueprint body) artifacts.component.content ∧
        rootNames blueprint = ["role", "className", "width", "height", "fill", "stroke", "role",
          "aria-label"].map String.toList ∧
        ¬ (rootNames blueprint).Nodup := by
  have names :
      rootNames (Component.blueprint "<svg role=\"img\"></svg>" (nameOfString "Icon") {} none) =
      ["role", "className", "width", "height", "fill", "stroke", "role", "aria-label"].map
        String.toList := by
    decide +kernel
  refine ⟨by decide +kernel, _,
    _, drawnBody (Component.blueprint "<svg role=\"img\"></svg>" (nameOfString "Icon") {} none),
    synthesize_eq_ok (by decide) (by decide) {} none [] none, rfl, shows_source _, names, ?_⟩
  rw [names]
  decide

end Handoff.Component
