import Handoff.Component.Artifacts
import Handoff.Proofs.Entries

/-! # The files of a component

The files of a component differ in what follows its name, whatever the options are. So no file takes
the place of another.
-/

namespace Handoff.Component

/-- What follows the name of a component in the name of its file. -/
def ending (config : Config) : String :=
  match config.framework with
  | .react => if config.typescript then ".tsx" else ".jsx"
  | .vue => ".vue"
  | .angular => ".component." ++ Stylesheet.scriptExtension config
  | .svelte => ".svelte"

def stylesheetEnding (config : Config) : String :=
  match Stylesheet.effectiveStyling config with
  | .scss => ".scss"
  | .styledComponents => ".styles." ++ Stylesheet.scriptExtension config
  | _ => ".css"

/-- What follows the name of a component in the name of its unit test. -/
def testEnding (config : Config) : String :=
  ".test." ++ Stylesheet.scriptExtension config ++ if config.framework == .react then "x" else ""

/-- What follows the name of a component in the names of its files. -/
def endings (config : Config) : List String :=
  [ending config, stylesheetEnding config] ++ (if config.typescript then [".types.ts"] else []) ++
    (if config.testing.unitTests then [testEnding config] else [])

variable (name : String) (config : Config)

theorem fileName_eq : fileName name config = name ++ ending config := by
  unfold fileName ending
  cases config.framework <;> simp [String.append_assoc]

theorem stylesheet_fileName_eq :
    Stylesheet.fileName name config = name ++ stylesheetEnding config := by
  unfold Stylesheet.fileName stylesheetEnding Stylesheet.moduleName
  cases Stylesheet.effectiveStyling config <;> simp [String.append_assoc]

theorem testFileName_eq : testFileName name config = name ++ testEnding config := by
  simp [testFileName, testEnding, String.append_assoc]

theorem nodup_endings : (endings config).Nodup := by
  have all (framework : Framework) (typescript : Bool) (styling : Styling) (unitTests : Bool) :
      (endings { framework, typescript, styling, testing := { unitTests } }).Nodup := by
    cases framework <;> cases typescript <;> cases styling <;> cases unitTests <;> decide
  exact all config.framework config.typescript config.styling config.testing.unitTests

variable (markup : String) (origin : Option DesignFile) (palette : List String)
  (stylesheet : Option String)

theorem parts_names :
    (artifacts markup name config origin palette stylesheet).parts.map SourceFile.name =
      (endings config).map (name ++ ·) := by
  unfold artifacts Artifacts.parts endings
  cases config.typescript <;> cases config.testing.unitTests <;>
    simp [fileName_eq, stylesheet_fileName_eq, testFileName_eq, typesFileName]

theorem nodup_parts_names :
    ((artifacts markup name config origin palette stylesheet).parts.map SourceFile.name).Nodup := by
  rw [parts_names]
  exact (nodup_endings config).map fun _ _ => (String.append_right_inj name).mp

/-- No file of a component takes the place of another. -/
theorem files_artifacts :
    (artifacts markup name config origin palette stylesheet).files =
      (artifacts markup name config origin palette stylesheet).parts := by
  have distinct := nodup_parts_names name config markup origin palette stylesheet
  generalize artifacts markup name config origin palette stylesheet = made at distinct ⊢
  have keys : (made.parts.map fun file => (file.name, file.content)).map Prod.fst =
      made.parts.map SourceFile.name := List.map_map
  rw [Artifacts.files, Artifacts.contents, Entries.ofList_eq_self (keys ▸ distinct), List.map_map]
  exact List.map_id _

end Handoff.Component
