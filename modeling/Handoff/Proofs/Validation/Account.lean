import Handoff.Proofs.Markup.Nesting
import Handoff.Proofs.Report.Tally
import Handoff.Validation.Language
import Mathlib.Data.List.Forall2

/-! # The account of a validation

Whatever the source, the language and the compiler, a validation comes to a result whose accounts
agree. Of a typed source, it tells what the compiler says, but for what comes of compiling a file on
its own, and then what is wrong with the tags. A compiler that fails is told of in one warning and
leaves the validity to the tags.
-/

namespace Handoff

open Text

namespace Compiler

/-- A diagnostic only tells that a file was compiled without its project. -/
def Diagnostic.IsNoise (diagnostic : Diagnostic) : Prop :=
  diagnostic.code ∈ environmentalCodes ∨
    diagnostic.code ∈ ([2339, 2322] : List Int) ∧
      ∃ marker ∈ ["JSX.IntrinsicElements", "IntrinsicAttributes"],
        marker.toList <:+: diagnostic.message.toList

theorem isEnvironmental_iff {diagnostic : Diagnostic} :
    diagnostic.isEnvironmental = true ↔ diagnostic.IsNoise := by
  rw [Diagnostic.isEnvironmental, Diagnostic.IsNoise, Bool.or_eq_true, Bool.and_eq_true,
    Bool.or_eq_true,
    Bool.or_eq_true, holds_iff, holds_iff, List.contains_iff_mem, beq_iff_eq, beq_iff_eq]
  simp only [List.mem_cons, List.not_mem_nil, or_false, exists_eq_or_imp, exists_eq_left]

instance : DecidablePred Diagnostic.IsNoise := fun _ => decidable_of_iff _ isEnvironmental_iff

structure Tells (diagnostic : Diagnostic) (finding : Finding) : Prop where
  line : finding.line = diagnostic.line + 1
  column : finding.column = diagnostic.character + 1
  message : finding.message = diagnostic.message
  error : finding.severity = .error ↔ diagnostic.category = "error"
  warning : finding.severity = .warning ↔ diagnostic.category = "warning"
  source : finding.source = findingSource
  code : finding.code = some (.number diagnostic.code)
  category : (diagnostic.code, finding.category) ∈ categories ∨
    diagnostic.code ∉ categories.map Prod.fst ∧ finding.category = "general"

theorem severityOf_cases (category : String) :
    (severityOf category = .error ↔ category = "error") ∧
      (severityOf category = .warning ↔ category = "warning") := by
  unfold severityOf
  split
  case isTrue h =>
    obtain rfl := eq_of_beq h
    decide
  case isFalse h =>
    have other : category ≠ "error" := fun same => h (beq_iff_eq.mpr same)
    split
    case isTrue h =>
      obtain rfl := eq_of_beq h
      decide
    case isFalse h =>
      have less : category ≠ "warning" := fun same => h (beq_iff_eq.mpr same)
      simp [other, less]

theorem tells_toFinding (diagnostic : Diagnostic) : Tells diagnostic diagnostic.toFinding where
  line := rfl
  column := rfl
  message := rfl
  error := (severityOf_cases diagnostic.category).1
  warning := (severityOf_cases diagnostic.category).2
  source := rfl
  code := rfl
  category := by
    unfold Diagnostic.toFinding
    cases found : categories.lookup diagnostic.code with
    | some category =>
      obtain ⟨before, after, split, -⟩ := List.lookup_eq_some_iff.mp found
      exact .inl (split ▸ by simp)
    | none =>
      have apart := List.lookup_eq_none_iff.mp found
      refine .inr ⟨fun hm => ?_, rfl⟩
      obtain ⟨entry, he, same⟩ := List.mem_map.mp hm
      simpa [same] using apart entry he

theorem tells_findings {compiler : Compiler} {source fileName : String}
    {diagnostics : List Diagnostic} (said : compiler source fileName = .ok diagnostics) :
    List.Forall₂ Tells (diagnostics.filter (¬ ·.IsNoise)) (findings compiler source fileName) := by
  have kept : diagnostics.filter (!·.isEnvironmental) = diagnostics.filter (¬ ·.IsNoise) := by
    refine List.filter_congr fun diagnostic _ => ?_
    rw [Bool.eq_iff_iff, Bool.not_eq_true', ← Bool.not_eq_true, isEnvironmental_iff,
      decide_eq_true_iff]
  simp only [findings, said]
  rw [← kept, List.forall₂_map_right_iff, List.forall₂_same]
  exact fun diagnostic _ => tells_toFinding diagnostic

end Compiler

theorem Markup.isBlocking_of_mem_checkTags {jsx checkAttributes : Bool} {source : List Char} :
    ∀ finding ∈ checkTags jsx checkAttributes source, finding.isBlocking = true := by
  obtain ⟨front, found, order⟩ := checkTags_eq jsx checkAttributes source
  have wrong : ∀ finding ∈ front, finding.isBlocking = true := by
    intro finding hf
    rcases List.mem_append.mp (order.mem_iff.mp hf) with hf | hf
    · obtain ⟨fault, -, rfl⟩ := List.mem_map.mp hf
      cases fault <;> rfl
    · split at hf
      · obtain ⟨plain, jsx, place, rfl⟩ := plainNamesFrom_eq finding hf
        rfl
      · cases hf
  rw [found]
  exact List.forall_mem_append.mpr ⟨wrong, List.forall_mem_map.mpr fun _ _ => rfl⟩

/-- The file that a typed source is compiled as, and whether the source is written in JSX. -/
def Language.typedFile? : Language → Option (String × Bool)
  | .typescript | .tsx => some ("component.tsx", true)
  | .angular => some ("component.ts", false)
  | .css | .scss | .javascript | .jsx | .html | .vue | .svelte => none

namespace ValidationResult

/-- The result for a typed source: what the compiler says, or that it failed, and then what is wrong
with the tags. -/
structure IsTyped (compiler : Compiler) (source fileName : String) (jsx : Bool)
    (result : ValidationResult) : Prop where
  checked : ∀ diagnostics, compiler source fileName = .ok diagnostics → ∃ told,
    List.Forall₂ Compiler.Tells (diagnostics.filter (¬ ·.IsNoise)) told ∧
      result.findings = told ++ Markup.checkTags jsx true source.toList
  failed : ∀ reason, compiler source fileName = .error reason → ∃ warning : Finding,
    warning.severity = .warning ∧ warning.category = "system" ∧
      result.findings = warning :: Markup.checkTags jsx true source.toList ∧
      (result.isValid = true ↔ Markup.checkTags jsx true source.toList = [])

theorem isTyped_ofFindings (compiler : Compiler) (source fileName : String) (jsx : Bool) :
    (ofFindings (Compiler.findings compiler source fileName ++
      Markup.checkTags jsx true source.toList)).IsTyped compiler source fileName jsx where
  checked := fun _ said => ⟨_, Compiler.tells_findings said, rfl⟩
  failed := by
    intro reason failed
    refine ⟨Compiler.failureFinding reason, rfl, rfl, ?_, ?_⟩
    · rw [Compiler.findings, failed]
      rfl
    · have harmless : (Compiler.failureFinding reason).isBlocking = false := rfl
      rw [Compiler.findings, failed, isValid, Bool.not_eq_true', ofFindings, List.singleton_append,
        List.any_cons, harmless, Bool.false_or, List.any_eq_false]
      constructor
      · intro passed
        refine List.eq_nil_iff_forall_not_mem.mpr fun finding hf => passed finding hf ?_
        exact Markup.isBlocking_of_mem_checkTags finding hf
      · intro clean
        simp [clean]

end ValidationResult

namespace Validation

theorem ofName?_name (known : Language) : Language.ofName? known.name = some known := by
  cases known <;> rfl

theorem ofName?_eq_none {name : String} (h : ∀ known : Language, known.name ≠ name) :
    Language.ofName? name = none :=
  List.find?_eq_none.mpr fun known _ => by simpa using h known

theorem isTyped_findings {compiler : Compiler} {source fileName : String} {jsx : Bool}
    {known : Language} (typed : known.typedFile? = some (fileName, jsx)) :
    (ValidationResult.ofFindings (known.findings compiler source)).IsTyped compiler source
      fileName jsx := by
  cases known <;> cases typed
  case typescript => exact ValidationResult.isTyped_ofFindings compiler source _ _
  case tsx => exact ValidationResult.isTyped_ofFindings compiler source _ _
  case angular => exact ValidationResult.isTyped_ofFindings compiler source _ _

/-- A validation always comes to a result, and the accounts of the result agree. A source in a typed
language, whose name may be given in letters of either case, is told about by the compiler and the
tags, and of a language that is not known nothing else is said. -/
theorem validation_consistent (compiler : Compiler) (source language : String) :
    (validate compiler (some source) language).IsConsistent ∧
      (∀ known : Language, known.name.toList = lower language.toList → ∀ fileName jsx,
        known.typedFile? = some (fileName, jsx) →
          (validate compiler (some source) language).IsTyped compiler source fileName jsx) ∧
      ((∀ known : Language, known.name.toList ≠ lower language.toList) → ∃ finding,
        (validate compiler (some source) language).findings = [finding] ∧
          finding.isBlocking = true ∧ finding.category = "system") := by
  refine ⟨ValidationResult.isConsistent_ofFindings _, ?_, ?_⟩
  · intro known named fileName jsx typed
    have found : Language.ofName? (String.ofList (lower language.toList)) = some known := by
      rw [← named, String.ofList_toList, ofName?_name]
    simp only [validate, found]
    exact isTyped_findings typed
  · intro unknown
    have missing : Language.ofName? (String.ofList (lower language.toList)) = none := by
      refine ofName?_eq_none fun known same => unknown known ?_
      rw [same, String.toList_ofList]
    simp only [validate, missing]
    exact ⟨_, rfl, rfl, rfl⟩

/-- The language in capitals, and a compiler that fails. -/
theorem validation_consistent_failing :
    Language.tsx.name.toList = lower "TSX".toList ∧
    Language.tsx.typedFile? = some ("component.tsx", true) ∧
      ∃ warning : Finding, warning.severity = .warning ∧
        (validate (fun _ _ => .error "no grammar") (some "<b>") "TSX").findings =
          warning :: Markup.checkTags true true "<b>".toList ∧
        (validate (fun _ _ => .error "no grammar") (some "<b>") "TSX").isValid = false := by
  have named : Language.tsx.name.toList = lower "TSX".toList := by decide +kernel
  have failed := ((validation_consistent (fun _ _ => .error "no grammar") "<b>" "TSX").2.1
    .tsx named _ _ rfl).failed _ rfl
  obtain ⟨warning, severity, -, findings, valid⟩ := failed
  refine ⟨named, rfl, warning, severity, findings, ?_⟩
  rw [Bool.eq_false_iff, ne_eq, valid]
  decide +kernel

end Validation

end Handoff
