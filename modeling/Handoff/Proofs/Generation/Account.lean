import Handoff.Proofs.Component.File
import Handoff.Proofs.Generation.Run
import Handoff.Text.Encoding

/-! # The accounts of a generation

The list of files, the list of places, the results of validation, the log and the report on quality
are worked out one by one. They all tell of the same files and of the same findings.
-/

namespace Handoff

/-! ## Logs and findings -/

def findingsByFile (results : FileResults) : List Quality.FileFindings :=
  results.map fun (file, result) => (file, result.findings)

theorem errors_ofFinding? (file : String) (findings : List Finding) :
    ((findings.filterMap (BuildLog.ofFinding? file)).filter (·.isError)) =
      (findings.filter Finding.isBlocking).map fun finding =>
        ⟨true, file, finding.line, finding.message⟩ := by
  induction findings with
  | nil => rfl
  | cons finding rest ih =>
    cases h : finding.severity <;>
      simp [BuildLog.ofFinding?, Finding.isBlocking, h, ih]

theorem countP_ofFinding? (file : String) (findings : List Finding) :
    (findings.filterMap (BuildLog.ofFinding? file)).countP (!·.isError) =
      findings.countP (·.severity == .warning) := by
  induction findings with
  | nil => rfl
  | cons finding rest ih =>
    cases h : finding.severity <;>
      simp [BuildLog.ofFinding?, h, ih]

theorem errors_buildLogs (results : FileResults) :
    ((buildLogs results).filter (·.isError)).map (fun log => (log.file, log.line, log.message)) =
      (Quality.issuesOf (findingsByFile results)).map
        fun issue => (issue.file, issue.line, issue.message) := by
  induction results with
  | nil => rfl
  | cons entry rest ih =>
    simp only [buildLogs, Quality.issuesOf, findingsByFile, List.flatMap_cons, List.map_cons,
      List.filter_append, List.map_append, errors_ofFinding?, List.map_map] at ih ⊢
    rw [ih]
    rfl

theorem warnings_buildLogs (results : FileResults) :
    (buildLogs results).countP (!·.isError) = Quality.warningCount (findingsByFile results) := by
  induction results with
  | nil => rfl
  | cons entry rest ih =>
    simp only [buildLogs, Quality.warningCount, findingsByFile, List.flatMap_cons, List.map_cons,
      List.countP_append, countP_ofFinding?] at ih ⊢
    rw [ih]

def BuildLog.severity (isError : Bool) : Severity := if isError then .error else .warning

theorem exists_log_iff (results : FileResults) (isError : Bool) :
    (∃ log ∈ buildLogs results, log.isError = isError) ↔
      ∃ entry ∈ results, ∃ finding ∈ entry.2.findings,
        finding.severity = BuildLog.severity isError := by
  simp only [buildLogs, List.mem_flatMap, List.mem_filterMap]
  constructor
  · rintro ⟨log, ⟨entry, hr, finding, hf, made⟩, rfl⟩
    refine ⟨entry, hr, finding, hf, ?_⟩
    cases h : finding.severity <;> simp only [BuildLog.ofFinding?, h] at made <;> cases made <;> rfl
  · rintro ⟨entry, hr, finding, hf, h⟩
    refine ⟨⟨isError, entry.1, finding.line, finding.message⟩, ⟨entry, hr, finding, hf, ?_⟩, rfl⟩
    cases isError <;> simp [BuildLog.ofFinding?, h, BuildLog.severity]

theorem buildLogs_eq_nil_iff {results : FileResults} :
    buildLogs results = [] ↔
      ∀ entry ∈ results, ∀ finding ∈ entry.2.findings, finding.severity = .info := by
  have none_iff (file : String) (finding : Finding) :
      BuildLog.ofFinding? file finding = none ↔ finding.severity = .info := by
    cases h : finding.severity <;> simp [BuildLog.ofFinding?, h]
  simp only [buildLogs, List.flatMap_eq_nil_iff, List.filterMap_eq_nil_iff, none_iff]

/-! ## The status -/

theorem ofLogs_eq_error_iff {logs : List BuildLog} :
    BuildStatus.ofLogs logs = .error ↔ ∃ log ∈ logs, log.isError = true := by
  rw [← List.any_eq_true]
  unfold BuildStatus.ofLogs
  split
  · simp_all
  · split <;> simp_all

theorem ofLogs_eq_success_iff {logs : List BuildLog} :
    BuildStatus.ofLogs logs = .success ↔ logs = [] := by
  cases logs with
  | nil => simp [BuildStatus.ofLogs]
  | cons log rest =>
    unfold BuildStatus.ofLogs
    split <;> simp

theorem ofLogs_eq_warning_iff {logs : List BuildLog} :
    BuildStatus.ofLogs logs = .warning ↔
      (¬ ∃ log ∈ logs, log.isError = true) ∧ ∃ log ∈ logs, log.isError = false := by
  constructor
  · intro h
    have clean : ¬ ∃ log ∈ logs, log.isError = true := fun he => by
      rw [ofLogs_eq_error_iff.mpr he] at h
      cases h
    have some : logs ≠ [] := fun he => by
      rw [ofLogs_eq_success_iff.mpr he] at h
      cases h
    obtain ⟨log, hl⟩ := List.exists_mem_of_ne_nil logs some
    exact ⟨clean, log, hl, eq_false_of_ne_true fun he => clean ⟨log, hl, he⟩⟩
  · rintro ⟨clean, log, hl, -⟩
    cases h : BuildStatus.ofLogs logs with
    | error => exact absurd (ofLogs_eq_error_iff.mp h) clean
    | warning => rfl
    | success =>
      rw [ofLogs_eq_success_iff.mp h] at hl
      cases hl

/-! ## Files and places -/

theorem size_eq (placed : PlacedFile) :
    placed.size = (Text.bytesOf placed.file.content.toList).length := by
  rw [PlacedFile.size, ← String.size_toByteArray, ← String.utf8Encode_toList, List.utf8Encode,
    List.size_toByteArray, Text.bytesOf]

theorem placed_artifacts (markup name : String) (config : Config) (origin : Option DesignFile)
    (palette : List String) (stylesheet : Option String) :
    (Component.artifacts markup name config origin palette stylesheet).placed =
      (Component.artifacts markup name config origin palette stylesheet).parts.map fun file =>
        ⟨pathIn (componentFolder name) file.name, file⟩ := by
  rw [Artifacts.placed, Component.files_artifacts]
  rfl

theorem pathIn_injective (folder : String) : Function.Injective (pathIn folder) := fun _ _ =>
  (String.append_right_inj _).mp

theorem places_ofArtifacts (artifacts : Artifacts) :
    let places := Structure.ofArtifacts artifacts
    places.components ++ places.styles ++ places.types ++ places.tests =
      artifacts.parts.map fun file => pathIn (componentFolder artifacts.name) file.name := by
  simp [Structure.ofArtifacts, Artifacts.parts]

/-! ## The accounts together -/

/-- The accounts of a generation agree: they list the same files, each under a name of its own, and
the same findings, each with the file in which it is. -/
structure Consistent (compiler : Compiler) (generated : Generated) : Prop where
  files : generated.files.map PlacedFile.file = generated.artifacts.parts
  names : (generated.files.map PlacedFile.name).Nodup
  places : generated.places.components ++ generated.places.styles ++ generated.places.types ++
    generated.places.tests = generated.files.map PlacedFile.path
  paths : (generated.files.map PlacedFile.path).Nodup
  sizes : ∀ placed ∈ generated.files,
    placed.size = (Text.bytesOf placed.file.content.toList).length
  validation : generated.validation = generated.files.map fun placed =>
    (placed.name, validateFile compiler generated.config.framework placed)
  errors : (generated.logs.filter (·.isError)).map (fun log => (log.file, log.line, log.message)) =
    generated.quality.issues.map fun issue => (issue.file, issue.line, issue.message)
  error_iff_invalid : generated.status = .error ↔ generated.isValid = false
  invalid_iff_issues : generated.isValid = false ↔ generated.quality.issues ≠ []
  warning_iff : generated.status = .warning ↔ generated.isValid = true ∧
    ∃ entry ∈ generated.validation, ∃ finding ∈ entry.2.findings, finding.severity = .warning
  success_iff : generated.status = .success ↔
    ∀ entry ∈ generated.validation, ∀ finding ∈ entry.2.findings, finding.severity = .info
  code : generated.quality.categories.code =
    max 0 (100 - 10 * (generated.logs.countP (·.isError) : Int) -
      3 * (generated.logs.countP (!·.isError) : Int))

theorem isValid_eq_false_iff {generated : Generated} :
    generated.isValid = false ↔
      ∃ entry ∈ generated.validation, ∃ finding ∈ entry.2.findings, finding.severity = .error := by
  simp [Generated.isValid, ValidationResult.isValid, Finding.isBlocking]

theorem exists_error_iff_issues (results : FileResults) :
    (∃ log ∈ buildLogs results, log.isError = true) ↔
      Quality.issuesOf (findingsByFile results) ≠ [] := by
  have mapped := errors_buildLogs results
  rw [ne_eq, ← List.map_eq_nil_iff, ← mapped, List.map_eq_nil_iff, List.filter_eq_nil_iff]
  simp

variable {compiler : Compiler} {session : String} {config : Config}
  {findings : Generation.Findings} {generated : Generated}

theorem Generation.Completes.consistent
    (h : Completes session config findings
      ((artifactsFor config findings).placed.map (validateFile compiler config.framework))
      generated) :
    Consistent compiler generated := by
  obtain ⟨-, rfl, made, files, placed, validated, logs, status, quality⟩ := h
  have parts : generated.files = generated.artifacts.parts.map fun file =>
      ⟨pathIn (componentFolder generated.artifacts.name) file.name, file⟩ := by
    rw [files, made]
    exact placed_artifacts ..
  have names : (generated.files.map PlacedFile.name).Nodup := by
    rw [parts, List.map_map, made]
    exact Component.nodup_parts_names ..
  have paths : generated.files.map PlacedFile.path =
      (generated.files.map PlacedFile.name).map
        (pathIn (componentFolder generated.artifacts.name)) := by
    rw [parts, List.map_map, List.map_map, List.map_map]
    rfl
  have results : generated.validation = generated.files.map fun placed =>
      (placed.name, validateFile compiler generated.config.framework placed) := by
    rw [validated, ← made, ← files, resultsByName, List.zip_map']
    exact Entries.ofList_eq_self (by rwa [List.map_map])
  have issues :
      generated.quality.issues = Quality.issuesOf (findingsByFile generated.validation) := by
    rw [quality]
    rfl
  have errors := errors_buildLogs generated.validation
  have count := congrArg List.length errors
  rw [List.length_map, List.length_map] at count
  have isError : generated.status = .error ↔ ∃ log ∈ generated.logs, log.isError = true := by
    rw [status, ofLogs_eq_error_iff]
  have invalid : generated.isValid = false ↔ ∃ log ∈ generated.logs, log.isError = true := by
    rw [isValid_eq_false_iff, logs]
    exact (exists_log_iff generated.validation true).symm
  exact {
    files := by rw [parts, List.map_map]; exact List.map_id _
    names
    places := by rw [placed, places_ofArtifacts, parts, List.map_map]; rfl
    paths := paths ▸ names.map (pathIn_injective _)
    sizes := fun placed _ => size_eq placed
    validation := results
    errors := by rw [logs, issues, errors]
    error_iff_invalid := isError.trans invalid.symm
    invalid_iff_issues := by rw [invalid, logs, issues, exists_error_iff_issues]
    warning_iff := by
      rw [status, ofLogs_eq_warning_iff, ← invalid, Bool.not_eq_false, logs, exists_log_iff]
      rfl
    success_iff := by
      rw [status, ofLogs_eq_success_iff, logs, buildLogs_eq_nil_iff]
    code := by
      rw [logs, List.countP_eq_length_filter, count, warnings_buildLogs, quality]
      rfl }

/-- Whenever a generation has a result, the accounts in it agree, and the result is the same
whatever has happened while the files were validated. -/
theorem generated_consistent (compiler : Compiler) (observer : Observer) (session : String)
    (happenings : List Happening) (options : Json) (request : Generation.Request) (engine : Engine)
    (generated : Generated)
    (h : (engine.generateWithAmid compiler observer session happenings options request).1 =
      .ok generated) :
    Consistent compiler generated ∧
      ∀ others : List Happening,
        (engine.generateWithAmid compiler observer session others options request).1 =
          .ok generated := by
  cases read : Config.read options with
  | error problems =>
    simp only [Engine.generateWithAmid, read] at h
    cases h
  | ok config =>
    simp only [Engine.generateWithAmid, read, Engine.generateAmid] at h ⊢
    cases found : Generation.findingsOf request config with
    | error fault =>
      rw [Generation.run_body_error found] at h
      cases h
    | ok findings =>
      cases encoding : Generation.encodingOf config findings with
      | error fault =>
        rw [Generation.run_body_unencoded found encoding] at h
        cases h
      | ok =>
        obtain ⟨made, completes, run⟩ :=
          Generation.run_body_ok compiler observer session found encoding
        rw [run] at h
        cases h
        exact ⟨completes.consistent, fun others => by rw [run]⟩

/-- A compiler with an error and a warning for every source. -/
def strictCompiler : Compiler := fun _ _ => .ok [
  ⟨2, 4, 1005, "';' expected.", "error"⟩,
  ⟨0, 7, 6133, "'Input' is declared but its value is never read.", "warning"⟩]

def testedOptions : Json := .object [("framework", .string "angular"), ("styling", .string "scss"),
  ("testing", .object [("unitTests", .bool true)])]

def namedDesign : Json :=
  let box : Json := .object [("x", .int 1), ("y", .int 2), ("width", .int 3), ("height", .int 4)]
  .object [("name", .string "Icon"), ("document", .object [
    ("type", .string "RECTANGLE"), ("absoluteBoundingBox", box)])]

theorem mem_buildLogs {results : FileResults} {file : String} {result : ValidationResult}
    {finding : Finding} {log : BuildLog} (entry : (file, result) ∈ results)
    (found : finding ∈ result.findings) (made : BuildLog.ofFinding? file finding = some log) :
    log ∈ buildLogs results :=
  List.mem_flatMap.mpr ⟨_, entry, List.mem_filterMap.mpr ⟨_, found, made⟩⟩

theorem generated_consistent_strict :
    ∃ generated,
      (Engine.generateWithAmid strictCompiler (fun _ => .error "gone") "a"
        [.validated 2, .registered "b", .validated 0] testedOptions ⟨namedDesign, none⟩ {}).1 =
          .ok generated ∧
      Consistent strictCompiler generated ∧
      generated.status = .error ∧ generated.quality.issues ≠ [] ∧
      ⟨true, "Icon.component.ts", 3, "';' expected."⟩ ∈ generated.logs ∧
      ⟨false, "Icon.component.ts", 1, "'Input' is declared but its value is never read."⟩ ∈
        generated.logs := by
  let config : Config :=
    { framework := .angular, styling := .scss, testing := { unitTests := true } }
  have fresh : "a" ∉ ({} : Engine).sessions := by decide
  have apart : ∀ happening ∈ [Happening.validated 2, .registered "b", .validated 0],
      happening.session? ≠ some "a" := by decide
  have read : Config.read testedOptions = .ok config := rfl
  obtain ⟨findings, found, named⟩ : ∃ findings,
      Generation.findingsOf ⟨namedDesign, none⟩ config = .ok findings ∧
        Component.nameOfString (Generation.nameFor config findings.source) = "Icon" :=
    ⟨_, rfl, by decide +kernel⟩
  have encoded := Generation.encodingOf_eq_ok found
    (Generation.not_holdsSurrogate_of_design namedDesign)
  obtain ⟨generated, after, made, completes, -⟩ :=
    generateAmid_ok strictCompiler (fun _ => .error "gone") fresh apart found encoded
  have ends : (Engine.generateWithAmid strictCompiler (fun _ => .error "gone") "a"
      [.validated 2, .registered "b", .validated 0] testedOptions ⟨namedDesign, none⟩ {}).1 =
        .ok generated := by
    rw [Engine.generateWithAmid, read]
    exact congrArg Prod.fst made
  have consistent := (generated_consistent _ _ _ _ _ _ _ _ ends).1
  obtain ⟨placed, listed, component⟩ : ∃ placed ∈ generated.files,
      placed.file = generated.artifacts.component := by
    rw [← List.mem_map, consistent.files]
    exact List.mem_cons_self
  have name : placed.name = "Icon.component.ts" := by
    rw [PlacedFile.name, component, completes.artifacts, completes.config, Generation.artifactsFor,
      Component.artifacts, named]
    rfl
  have entry : ("Icon.component.ts", validateFile strictCompiler .angular placed) ∈
      generated.validation := by
    rw [consistent.validation, completes.config, ← name]
    exact List.mem_map_of_mem listed
  have reported : ∀ finding ∈ Compiler.findings strictCompiler placed.file.content "component.ts",
      finding ∈ (validateFile strictCompiler .angular placed).findings := by
    intro finding hf
    rw [validateFile, name]
    exact List.mem_append_left _ hf
  have failed : generated.status = .error := by
    rw [consistent.error_iff_invalid, isValid_eq_false_iff]
    exact ⟨_, entry, _, reported _ List.mem_cons_self, rfl⟩
  refine ⟨generated, ends, consistent, failed,
    consistent.invalid_iff_issues.mp (consistent.error_iff_invalid.mp failed), ?_, ?_⟩
  · rw [completes.logs]
    exact mem_buildLogs entry (reported _ List.mem_cons_self) rfl
  · rw [completes.logs]
    exact mem_buildLogs entry (reported _ (List.mem_cons_of_mem _ List.mem_cons_self)) rfl

end Handoff
