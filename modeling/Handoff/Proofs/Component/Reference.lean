import Mathlib.Data.List.Infix
import Handoff.Proofs.Component.File
import Handoff.Proofs.Component.Name
import Handoff.Proofs.Markup.Source
import Handoff.Proofs.Text.Lines

/-! # References between the files of a component

A component refers to its stylesheet and a unit test to its component by paths, and each path names
the one file that is meant. What is taken from there is exported there. Types are declared in a file
of their own as they are in the component.
-/

namespace Handoff.Component

open Markup (Lacks)
open Text (joinLines HasLines)

/-! ## Paths and bindings -/

def moduleEndings : List String := [".ts", ".tsx", ".js", ".jsx"]

/-- A path names a file beside it, perhaps without its ending. -/
def Reaches (path : String) (file : SourceFile) : Prop :=
  ∃ ending ∈ "" :: moduleEndings, "./" ++ file.name = path ++ ending

/-- Of some files, a path names this one. -/
def Finds (files : List SourceFile) (path : String) (file : SourceFile) : Prop :=
  ∀ other, other ∈ files ∧ Reaches path other ↔ other = file

/-- What is taken from another file: its default under some name, or something by its own name. -/
inductive Binding where
  | default (name : String)
  | named (name : String)

def Binding.importLine (path : String) : Binding → String
  | .default name => "import " ++ name ++ " from '" ++ path ++ "'"
  | .named name => "import \x7b " ++ name ++ " \x7d from '" ++ path ++ "'"

/-- A file exports what is taken from it. The default of a file for Svelte is its component. -/
def Exports (file : SourceFile) : Binding → Prop
  | .default _ => ".svelte".toList <:+ file.name.toList ∨
      ∃ value, HasLines ["export default " ++ value] file.content
  | .named name => ∃ kind ∈ ["const", "class"], ∃ rest,
      HasLines ["export " ++ kind ++ " " ++ name ++ " " ++ rest] file.content

/-- In a framework, a line refers to a stylesheet by its path. -/
def IsStyleReference (path line : String) : Framework → Prop
  | .react => line = "import '" ++ path ++ "'" ∨ ∃ binding : Binding, line = binding.importLine path
  | .vue => ∃ attributes, line = "<style" ++ attributes ++ " src=\"" ++ path ++ "\"></style>"
  | .angular => line = "  styleUrls: ['" ++ path ++ "'],"
  | .svelte => line = "  import '" ++ path ++ "'"

def memberLines (name heritage : String) (members : List (String × String)) : List String :=
  ["export interface " ++ name ++ heritage ++ " \x7b"] ++
  members.map (fun (member, type) => "  " ++ member ++ "?: " ++ type) ++
  ["\x7d"]

structure IsConnected (config : Config) (artifacts : Artifacts) : Prop where
  /-- No file takes the place of another. -/
  distinct : (artifacts.files.map SourceFile.name).Nodup
  complete : artifacts.files = artifacts.parts
  /-- The component refers to the stylesheet. -/
  styled : ∃ path line, IsStyleReference path line config.framework ∧
    HasLines [line] artifacts.component.content ∧ Finds artifacts.files path artifacts.stylesheet
  /-- With styled components, the component takes its wrapper from the stylesheet and uses it. -/
  wrapped : config.framework = .react → config.styling = .styledComponents → ∃ path wrapper,
    HasLines [(Binding.named wrapper).importLine path] artifacts.component.content ∧
      HasLines ["    <" ++ wrapper ++ ">"] artifacts.component.content ∧
      HasLines ["    </" ++ wrapper ++ ">"] artifacts.component.content ∧
      Finds artifacts.files path artifacts.stylesheet ∧
      Exports artifacts.stylesheet (.named wrapper)
  /-- A unit test takes the component from its file. -/
  tested : ∀ test ∈ artifacts.test, ∃ path, ∃ binding : Binding,
    HasLines [binding.importLine path] test.content ∧
      Finds artifacts.files path artifacts.component ∧ Exports artifacts.component binding
  typed : artifacts.types.isSome = config.typescript
  /-- The types are declared as in the component. -/
  declared : ∀ types ∈ artifacts.types, ∃ members heritage indent,
    types.content = Stylesheet.text (memberLines (artifacts.name ++ "Props") "" members) ∧
      HasLines ((memberLines (artifacts.name ++ "Props") heritage members).map (indented indent))
        artifacts.component.content

variable {block lines sections : List String} {line front text : String}

/-! ## Lines of a source -/

theorem hasLines_joinSections (h : HasLines block text) (hm : text ∈ sections) :
    HasLines block (joinSections sections) := by
  induction sections with
  | nil => cases hm
  | cons first more ih =>
    rcases eq_or_ne more [] with rfl | filled
    · obtain rfl := List.mem_singleton.mp hm
      simpa [joinSections] using h
    · have split : joinSections (first :: more) = first ++ "\n" ++
          ("" ++ "\n" ++ joinSections more) := by
        have separator : "\n\n" = "\n" ++ "\n" := by decide
        rw [joinSections, String.intercalate_cons_of_ne_nil filled, ← joinSections, separator]
        simp only [String.append_assoc, String.empty_append]
      rw [split]
      rcases List.mem_cons.mp hm with rfl | hm
      · exact h.above _
      · exact ((ih hm).below _).below _

/-- Behind a header, the sections of a source stand with a newline at the end. -/
theorem hasLines_laid (header : front = "" ∨ ∃ lead, front = lead ++ "\n") (h : HasLines block text)
    (hm : text ∈ sections) : HasLines block (front ++ joinSections sections ++ "\n") := by
  have laid := (hasLines_joinSections h hm).above ""
  rw [String.append_empty] at laid
  rcases header with rfl | ⟨lead, rfl⟩
  · rwa [String.empty_append]
  · have split : lead ++ "\n" ++ joinSections sections ++ "\n" =
        lead ++ "\n" ++ (joinSections sections ++ "\n") := String.append_assoc
    rw [split]
    exact laid.below lead

theorem lines_text (lines : List String) :
    Text.lines (Stylesheet.text lines).toList =
      (lines.flatMap fun line => Text.lines line.toList) ++ [[]] := by
  induction lines with
  | nil => rfl
  | cons line lines ih =>
    have split : (Stylesheet.text (line :: lines)).toList =
        line.toList ++ '\n' :: (Stylesheet.text lines).toList := by
      simp [Stylesheet.text]
    rw [split, Text.lines_append, ih, List.flatMap_cons, List.append_assoc]

theorem hasLines_text (h : block <:+: lines) (free : ∀ line ∈ block, '\n' ∉ line.toList) :
    HasLines block (Stylesheet.text lines) := by
  rw [HasLines, lines_text]
  exact (Text.flatMap_lines_of_block h free).trans (List.prefix_append _ _).isInfix

theorem hasLines_self (free : Lacks '\n' line) : HasLines [line] line := by
  have alone := Text.hasLines_joinLines List.infix_rfl (List.forall_mem_singleton.mpr free)
  rwa [joinLines, String.intercalate_singleton] at alone

theorem hasLine_joinLines (lines : List String) (h : line ∈ lines) (free : Lacks '\n' line) :
    HasLines [line] (joinLines lines) :=
  Text.hasLines_joinLines ((List.singleton_infix_iff _ _).mpr h)
    (List.forall_mem_singleton.mpr free)

theorem hasLine_text (h : line ∈ lines) (free : Lacks '\n' line) :
    HasLines [line] (Stylesheet.text lines) :=
  hasLines_text ((List.singleton_infix_iff _ _).mpr h) (List.forall_mem_singleton.mpr free)

section Source

variable {blueprint : Blueprint}

theorem React.hasLines_source (h : HasLines block text)
    (hm : text ∈ [joinLines (importLines blueprint)] ++
      (if blueprint.config.typescript then [joinLines (blueprint.interface heritage)] else []) ++
      [declaration blueprint, joinLines (exportLines blueprint)]) :
    HasLines block (React.source blueprint) := by
  refine hasLines_laid ?_ h hm
  unfold header
  cases blueprint.scriptHeader? with
  | none => exact .inl rfl
  | some lead => exact .inr ⟨lead, rfl⟩

theorem markupHeader_cases (blueprint : Blueprint) :
    blueprint.markupHeader = "" ∨ ∃ lead, blueprint.markupHeader = lead ++ "\n" := by
  unfold Blueprint.markupHeader
  split
  · exact .inl rfl
  · exact .inr ⟨_, rfl⟩

theorem Vue.hasLines_source (h : HasLines block text)
    (hm : text ∈ [joinLines (templateLines blueprint), joinLines (scriptLines blueprint),
      styleBlock blueprint]) :
    HasLines block (Vue.source blueprint) :=
  hasLines_laid (markupHeader_cases blueprint) h hm

theorem Angular.hasLines_source (h : HasLines block text)
    (hm : text ∈ [importLine blueprint] ++
      (if blueprint.config.typescript then [joinLines (blueprint.interface "")] else []) ++
      [joinLines (classLines blueprint), "export default " ++ blueprint.name]) :
    HasLines block (Angular.source blueprint) := by
  have laid : HasLines block ("" ++ joinSections (blueprint.scriptHeader?.toList ++ _) ++ "\n") :=
    hasLines_laid (.inl rfl) h (List.mem_append_right _ hm)
  rw [String.empty_append] at laid
  simpa only [source, List.append_assoc] using laid

theorem Svelte.hasLines_source (h : HasLines block text)
    (hm : text ∈ [joinLines (moduleLines blueprint), joinLines (instanceLines blueprint),
      joinLines (drawingLines blueprint)]) :
    HasLines block (Svelte.source blueprint) :=
  hasLines_laid (markupHeader_cases blueprint) h hm

end Source

/-! ## Paths to files -/

section Paths

variable {name : String} {config : Config} {files : List SourceFile} {file : SourceFile}

def stylesheetPathEnding (config : Config) : String :=
  if config.framework = .react ∧ config.styling = .styledComponents then ".styles"
  else stylesheetEnding config

def pathEnding : Framework → String
  | .react => ""
  | .vue => ".vue"
  | .angular => ".component"
  | .svelte => ".svelte"

/-- Among endings of names, the ending of a path leads to one. -/
def LeadsTo (endings : List String) (path target : String) : Prop :=
  target ∈ endings ∧
    ∀ ending ∈ endings, (∃ left ∈ "" :: moduleEndings, ending = path ++ left) ↔ ending = target

instance (endings : List String) (path target : String) : Decidable (LeadsTo endings path target) :=
  inferInstanceAs (Decidable (_ ∧ _))

theorem leadsTo_endings (config : Config) :
    LeadsTo (endings config) (stylesheetPathEnding config) (stylesheetEnding config) ∧
      LeadsTo (endings config) (pathEnding config.framework) (ending config) := by
  have all (framework : Framework) (typescript : Bool) (styling : Styling) (unitTests : Bool) :
      let config : Config := { framework, typescript, styling, testing := { unitTests } }
      LeadsTo (endings config) (stylesheetPathEnding config) (stylesheetEnding config) ∧
        LeadsTo (endings config) (pathEnding config.framework) (ending config) := by
    cases framework <;> cases typescript <;> cases styling <;> cases unitTests <;> decide
  exact all config.framework config.typescript config.styling config.testing.unitTests

theorem LeadsTo.finds {path target : String} (h : LeadsTo (endings config) path target)
    (names : files.map SourceFile.name = (endings config).map (name ++ ·)) (hm : file ∈ files)
    (named : file.name = name ++ target) (distinct : (files.map SourceFile.name).Nodup) :
    Finds files ("./" ++ name ++ path) file := by
  intro other
  constructor
  · rintro ⟨ho, left, hl, he⟩
    obtain ⟨ending, hending, hn⟩ := List.mem_map.mp (names ▸ List.mem_map_of_mem ho)
    have same : ending = path ++ left := by
      rw [← hn] at he
      simp only [String.append_assoc] at he
      exact (String.append_right_inj _).mp ((String.append_right_inj _).mp he)
    have aimed := (h.2 ending hending).mp ⟨left, hl, same⟩
    exact List.inj_on_of_nodup_map distinct ho hm (by rw [← hn, aimed, named])
  · rintro rfl
    obtain ⟨left, hl, same⟩ := (h.2 target h.1).mpr rfl
    refine ⟨hm, left, hl, ?_⟩
    rw [named, same]
    simp only [String.append_assoc]

end Paths

/-! ## What is written -/

section Written

variable {name path : String} {config : Config} {blueprint : Blueprint}

theorem lacks_importLine {binding : Binding}
    (taken : binding = .default name ∨ binding = .named name)
    (hn : Lacks '\n' name) (hp : Lacks '\n' path) : Lacks '\n' (binding.importLine path) := by
  rcases taken with rfl | rfl <;>
    exact .append (.append (.append (.append (by decide) hn) (by decide)) hp) (by decide)

theorem lacks_reference {file : String} (front back : String) (hf : Lacks '\n' front)
    (hb : Lacks '\n' back) (placed : Lacks '\n' file) :
    Lacks '\n' (front ++ ("./" ++ file) ++ back) :=
  .append (.append hf (.append (by decide) placed)) hb

theorem lacks_path (plain : Lacks '\n' name) {ending : String} (he : Lacks '\n' ending) :
    Lacks '\n' ("./" ++ name ++ ending) :=
  .append (.append (by decide) plain) he

theorem lacks_stylesheetPathEnding (config : Config) :
    Lacks '\n' (stylesheetPathEnding config) := by
  have script : Lacks '\n' (Stylesheet.scriptExtension config) := by
    unfold Stylesheet.scriptExtension
    split <;> decide
  unfold stylesheetPathEnding stylesheetEnding
  split
  · decide
  · split
    · decide
    · exact .append (by decide) script
    · decide

theorem lacks_pathEnding (framework : Framework) : Lacks '\n' (pathEnding framework) := by
  cases framework <;> decide

theorem stylesheet_path (h : ¬ (config.framework = .react ∧ config.styling = .styledComponents)) :
    "./" ++ name ++ stylesheetPathEnding config = "./" ++ Stylesheet.fileName name config := by
  rw [stylesheetPathEnding, if_neg h, stylesheet_fileName_eq, String.append_assoc]

/-! ### References to stylesheets -/

theorem React.hasLine_wrapperImport (plain : Lacks '\n' blueprint.name)
    (framework : blueprint.config.framework = .react)
    (styling : blueprint.config.styling = .styledComponents) :
    HasLines [(Binding.named (blueprint.name ++ "Wrapper")).importLine
      ("./" ++ blueprint.name ++ ".styles")] (React.source blueprint) := by
  have free : Lacks '\n' ((Binding.named (blueprint.name ++ "Wrapper")).importLine
      ("./" ++ blueprint.name ++ ".styles")) :=
    lacks_importLine (.inr rfl) (plain.append (by decide)) (lacks_path plain (by decide))
  refine hasLines_source (hasLine_joinLines (importLines blueprint) ?_ free) (by simp)
  simp [importLines, isWrapped, Binding.importLine, Stylesheet.moduleName,
    Stylesheet.effectiveStyling, styling, framework, ← String.toList_inj]

theorem React.hasLine_import (placed : Lacks '\n' blueprint.stylesheet)
    (styling : blueprint.config.styling ≠ .styledComponents) :
    HasLines ["import '" ++ ("./" ++ blueprint.stylesheet) ++ "'"] (React.source blueprint) := by
  have free := lacks_reference "import '" "'" (by decide) (by decide) placed
  refine hasLines_source (hasLine_joinLines (importLines blueprint) ?_ free) (by simp)
  simp [importLines, isWrapped, styling, ← String.toList_inj]

theorem Vue.hasLine_style (placed : Lacks '\n' blueprint.stylesheet) :
    ∃ attributes, HasLines ["<style" ++ attributes ++ " src=\"" ++ ("./" ++ blueprint.stylesheet) ++
      "\"></style>"] (Vue.source blueprint) := by
  obtain ⟨attributes, written, free⟩ : ∃ attributes,
      styleBlock blueprint = "<style" ++ attributes ++ " src=\"" ++
        ("./" ++ blueprint.stylesheet) ++
        "\"></style>" ∧ Lacks '\n' attributes := by
    unfold styleBlock
    refine ⟨" scoped" ++ if blueprint.config.styling == .scss then " lang=\"scss\"" else "", ?_, ?_⟩
    · simp [← String.toList_inj]
    · exact .append (by decide) (by split <;> decide)
  refine ⟨attributes, hasLines_source (hasLines_self ?_) (by simp [written])⟩
  exact lacks_reference _ _ (.append (.append (by decide) free) (by decide)) (by decide) placed

theorem Angular.hasLine_styleUrls (placed : Lacks '\n' blueprint.stylesheet) :
    HasLines ["  styleUrls: ['" ++ ("./" ++ blueprint.stylesheet) ++ "'],"]
      (Angular.source blueprint) := by
  have free := lacks_reference "  styleUrls: ['" "']," (by decide) (by decide) placed
  refine hasLines_source (hasLine_joinLines (classLines blueprint) ?_ free) (by simp)
  simp [classLines, decoratorLines, ← String.toList_inj]

theorem Svelte.hasLine_import (placed : Lacks '\n' blueprint.stylesheet) :
    HasLines ["  import '" ++ ("./" ++ blueprint.stylesheet) ++ "'"] (Svelte.source blueprint) := by
  have free := lacks_reference "  import '" "'" (by decide) (by decide) placed
  refine hasLines_source (hasLine_joinLines (instanceLines blueprint) ?_ free) (by simp)
  simp [instanceLines, ← String.toList_inj]

theorem hasLine_styleReference (blueprint : Blueprint) (plain : Lacks '\n' blueprint.name)
    (placed : blueprint.stylesheet = Stylesheet.fileName blueprint.name blueprint.config) :
    ∃ line, IsStyleReference ("./" ++ blueprint.name ++ stylesheetPathEnding blueprint.config) line
        blueprint.config.framework ∧ HasLines [line] (source blueprint) := by
  by_cases wrapped : blueprint.config.framework = .react ∧
    blueprint.config.styling = .styledComponents
  · rw [stylesheetPathEnding, if_pos wrapped, source, wrapped.1]
    exact ⟨_, .inr ⟨_, rfl⟩, React.hasLine_wrapperImport plain wrapped.1 wrapped.2⟩
  · have free : Lacks '\n' blueprint.stylesheet := by
      have path := lacks_path plain (lacks_stylesheetPathEnding blueprint.config)
      rw [stylesheet_path wrapped, ← placed, Lacks, String.toList_append] at path
      exact fun hm => path (List.mem_append_right _ hm)
    rw [stylesheet_path wrapped, ← placed, source]
    cases framework : blueprint.config.framework with
    | react => exact ⟨_, .inl rfl, React.hasLine_import free fun h => wrapped ⟨framework, h⟩⟩
    | vue =>
      obtain ⟨attributes, found⟩ := Vue.hasLine_style free
      exact ⟨_, ⟨attributes, rfl⟩, found⟩
    | angular => exact ⟨_, rfl, Angular.hasLine_styleUrls free⟩
    | svelte => exact ⟨_, rfl, Svelte.hasLine_import free⟩

/-! ### Wrappers -/

theorem React.hasLine_wrapperTag {tag : String} (wrapped : isWrapped blueprint = true)
    (h : tag ∈ ["    <" ++ (blueprint.name ++ "Wrapper") ++ ">",
      "    </" ++ (blueprint.name ++ "Wrapper") ++ ">"])
    (plain : Lacks '\n' blueprint.name) : HasLines [tag] (React.source blueprint) := by
  rw [List.mem_pair] at h
  have free : Lacks '\n' tag := by
    rcases h with rfl | rfl <;>
      exact .append (.append (by decide) (plain.append (by decide))) (by decide)
  have written : tag ∈ drawingLines blueprint := by
    rcases h with rfl | rfl <;> simp [drawingLines, wrapped, ← String.toList_inj]
  have standing : HasLines [tag] (declaration blueprint) := by
    refine hasLine_joinLines _ ?_ free
    simp [written]
  exact hasLines_source standing (by simp)

theorem exports_wrapper (config : Config) (palette : List String) (plain : Lacks '\n' name)
    (framework : config.framework = .react) (styling : config.styling = .styledComponents) :
    Exports ⟨Stylesheet.fileName name config, Stylesheet.generate name config palette⟩
      (.named (name ++ "Wrapper")) := by
  have effective : Stylesheet.effectiveStyling config = .styledComponents := by
    simp [Stylesheet.effectiveStyling, framework, styling]
  refine ⟨"const", by simp, "= styled.span`", ?_⟩
  rw [Stylesheet.generate, effective]
  refine hasLine_text ?_ ?_
  · simp [Stylesheet.styledLines, ← String.toList_inj]
  · exact .append (.append (.append (.append (by decide) (by decide)) (plain.append (by decide)))
      (by decide)) (by decide)

/-! ### Unit tests -/

def testBinding (name : String) : Framework → Binding
  | .angular => .named name
  | .react | .vue | .svelte => .default name

theorem hasLine_testImport (plain : Lacks '\n' name) (framework : Framework) :
    HasLines [(testBinding name framework).importLine ("./" ++ name ++ pathEnding framework)]
      (testSource name framework) := by
  have taken : testBinding name framework = .default name ∨
      testBinding name framework = .named name := by
    cases framework <;> simp [testBinding]
  have free := lacks_importLine taken plain (lacks_path plain (lacks_pathEnding framework))
  cases framework <;> refine hasLine_text ?_ free <;>
    simp [testBinding, Binding.importLine, pathEnding, ← String.toList_inj]

theorem exports_component (blueprint : Blueprint) (plain : Lacks '\n' blueprint.name) :
    Exports ⟨fileName blueprint.name blueprint.config, source blueprint⟩
      (testBinding blueprint.name blueprint.config.framework) := by
  rw [source]
  cases framework : blueprint.config.framework with
  | react =>
    have line : Lacks '\n' ("export default " ++ blueprint.name) := .append (by decide) plain
    refine .inr ⟨blueprint.name, React.hasLines_source (hasLine_joinLines
      (React.exportLines blueprint) ?_ line) (by simp)⟩
    simp [React.exportLines]
  | vue =>
    refine .inr ⟨"defineComponent(\x7b", Vue.hasLines_source (hasLine_joinLines
      (Vue.scriptLines blueprint) ?_ (by decide)) (by simp)⟩
    simp [Vue.scriptLines]
  | angular =>
    obtain ⟨rest, written, free⟩ :
        ∃ rest, "export " ++ "class" ++ " " ++ blueprint.name ++ " " ++ rest =
        "export class " ++ blueprint.name ++ Angular.heritage blueprint ++ " \x7b" ∧
        Lacks '\n' rest := by
      unfold Angular.heritage
      split
      · refine ⟨"implements " ++ blueprint.name ++ "Props \x7b", ?_, ?_⟩
        · simp [← String.toList_inj]
        · exact .append (.append (by decide) plain) (by decide)
      · exact ⟨"\x7b", by simp [← String.toList_inj], by decide⟩
    have line : Lacks '\n' ("export " ++ "class" ++ " " ++ blueprint.name ++ " " ++ rest) :=
      .append (.append (.append (by decide) plain) (by decide)) free
    refine ⟨"class", by simp, rest, Angular.hasLines_source (hasLine_joinLines
      (Angular.classLines blueprint) ?_ line) (by simp)⟩
    simp only [written, Angular.classLines]
    simp
  | svelte =>
    refine .inl ⟨blueprint.name.toList, ?_⟩
    simp [fileName, framework]

/-! ### Types -/

def members (config : Config) : List (String × String) :=
  (Property.all config).map fun property => (property.name, property.typeName)

theorem interfaceLines_eq (name heritage : String) (config : Config) :
    interfaceLines name heritage config = memberLines (name ++ "Props") heritage
      (members config) := by
  simp [interfaceLines, memberLines, members, Property.member, String.append_assoc]

theorem lacks_interfaceLines (plain : Lacks '\n' name) {heritage : String}
    (hh : Lacks '\n' heritage) :
    ∀ line ∈ interfaceLines name heritage config, Lacks '\n' line := by
  have members (property : Property) : Lacks '\n' ("  " ++ property.member) := by
    cases property <;> decide
  simp only [interfaceLines, List.forall_mem_append, List.forall_mem_singleton, List.forall_mem_map]
  refine ⟨⟨?_, fun property _ => members property⟩, by decide⟩
  exact .append (.append (.append (.append (by decide) plain) (by decide)) hh) (by decide)

theorem hasLines_interface (blueprint : Blueprint) (plain : Lacks '\n' blueprint.name)
    (typed : blueprint.config.typescript = true) :
    ∃ heritage indent, HasLines ((blueprint.interface heritage).map (indented indent))
      (source blueprint) := by
  have unindented (lines : List String) : lines.map (indented 0) = lines := by
    have same : indented 0 = id := by
      funext line
      simp [indented]
    rw [same, List.map_id]
  rw [source]
  cases framework : blueprint.config.framework with
  | react =>
    refine ⟨React.heritage, 0, ?_⟩
    rw [unindented]
    exact React.hasLines_source (Text.hasLines_joinLines List.infix_rfl
      (lacks_interfaceLines plain (by decide))) (by simp [typed])
  | vue =>
    refine ⟨"", 0, ?_⟩
    rw [unindented]
    refine Vue.hasLines_source (Text.hasLines_joinLines ?_ (lacks_interfaceLines plain (by decide)))
      (List.mem_cons_of_mem _ List.mem_cons_self)
    rw [Vue.scriptLines, if_pos typed]
    refine ⟨["<script lang=\"ts\">", "import \x7b defineComponent, type PropType \x7d from 'vue'",
      ""], ?_⟩
    exact ⟨_, by simp only [List.append_assoc]; rfl⟩
  | angular =>
    refine ⟨"", 0, ?_⟩
    rw [unindented]
    exact Angular.hasLines_source (Text.hasLines_joinLines List.infix_rfl
      (lacks_interfaceLines plain (by decide))) (by simp [typed])
  | svelte =>
    refine ⟨"", 2, ?_⟩
    refine Svelte.hasLines_source (Text.hasLines_joinLines ?_ ?_) List.mem_cons_self
    · rw [Svelte.moduleLines, if_pos typed]
      exact ⟨["<script context=\"module\"" ++ Svelte.scriptLanguage blueprint ++ ">",
        "  export const componentName = '" ++ blueprint.name ++ "'", ""], ["</script>"], by simp⟩
    · refine List.forall_mem_map.mpr fun line hl => ?_
      exact Lacks.append (by decide) (lacks_interfaceLines plain (by decide) line hl)

end Written

/-! ## The files of a component -/

section Artifacts

variable (markup name : String) (config : Config) (origin : Option DesignFile)
  (palette : List String)

theorem finds_stylesheet :
    Finds (artifacts markup name config origin palette none).files
      ("./" ++ name ++ stylesheetPathEnding config)
      (artifacts markup name config origin palette none).stylesheet := by
  have distinct := nodup_parts_names name config markup origin palette none
  rw [files_artifacts]
  exact (leadsTo_endings config).1.finds (parts_names name config markup origin palette none)
    (.tail _ (.head _)) (stylesheet_fileName_eq name config) distinct

theorem finds_component :
    Finds (artifacts markup name config origin palette none).files
      ("./" ++ name ++ pathEnding config.framework)
      (artifacts markup name config origin palette none).component := by
  have distinct := nodup_parts_names name config markup origin palette none
  rw [files_artifacts]
  exact (leadsTo_endings config).2.finds (parts_names name config markup origin palette none)
    (.head _) (fileName_eq name config) distinct

theorem isConnected_artifacts (plain : Lacks '\n' name) :
    IsConnected config (artifacts markup name config origin palette none) := by
  have toStylesheet := finds_stylesheet markup name config origin palette
  have toComponent := finds_component markup name config origin palette
  have files := files_artifacts name config markup origin palette none
  have distinct := nodup_parts_names name config markup origin palette none
  obtain ⟨written, named, configured, placed, content⟩ : ∃ written : Blueprint,
      written.name = name ∧ written.config = config ∧
        written.stylesheet = Stylesheet.fileName written.name written.config ∧
        (artifacts markup name config origin palette none).component =
          ⟨fileName written.name written.config, source written⟩ :=
    ⟨blueprint markup name config origin, rfl, rfl, rfl, rfl⟩
  have stylesheet : (artifacts markup name config origin palette none).stylesheet =
      ⟨Stylesheet.fileName name config, Stylesheet.generate name config palette⟩ := rfl
  have types : (artifacts markup name config origin palette none).types =
      if config.typescript then some ⟨typesFileName name,
        Stylesheet.text (interfaceLines name "" config)⟩
      else none := rfl
  have test : (artifacts markup name config origin palette none).test =
      if config.testing.unitTests then some
        ⟨testFileName name config, testSource name config.framework⟩
      else none := rfl
  have called : (artifacts markup name config origin palette none).name = name := rfl
  -- only these facts are used from here on
  generalize artifacts markup name config origin palette none = made at *
  subst named configured
  constructor
  case distinct => rwa [files]
  case complete => exact files
  case styled =>
    obtain ⟨line, refers, stands⟩ := hasLine_styleReference written plain placed
    exact ⟨_, line, refers, by rwa [content], toStylesheet⟩
  case wrapped =>
    intro framework styling
    have wrapped : React.isWrapped written = true := by simp [React.isWrapped, styling]
    have path : stylesheetPathEnding written.config = ".styles" := if_pos ⟨framework, styling⟩
    rw [path] at toStylesheet
    refine ⟨_, written.name ++ "Wrapper", ?_, ?_, ?_, toStylesheet, ?_⟩
    · rw [content, source, framework]
      exact React.hasLine_wrapperImport plain framework styling
    · rw [content, source, framework]
      exact React.hasLine_wrapperTag wrapped (.head _) plain
    · rw [content, source, framework]
      exact React.hasLine_wrapperTag wrapped (.tail _ (.head _)) plain
    · rw [stylesheet]
      exact exports_wrapper written.config palette plain framework styling
  case tested =>
    intro file hf
    rw [test, Option.mem_def, Option.ite_none_right_eq_some, Option.some.injEq] at hf
    obtain ⟨-, rfl⟩ := hf
    refine ⟨_, testBinding written.name written.config.framework,
      hasLine_testImport plain written.config.framework, toComponent, ?_⟩
    rw [content]
    exact exports_component written plain
  case typed =>
    rw [types]
    cases written.config.typescript <;> rfl
  case declared =>
    intro file hf
    rw [types, Option.mem_def, Option.ite_none_right_eq_some, Option.some.injEq] at hf
    obtain ⟨typed, rfl⟩ := hf
    obtain ⟨heritage, indent, stands⟩ := hasLines_interface written plain typed
    rw [Blueprint.interface, interfaceLines_eq] at stands
    rw [called, content]
    exact ⟨members written.config, heritage, indent, by rw [interfaceLines_eq], stands⟩

end Artifacts

/-- However a component is made of a drawing and a name, its files refer to each other correctly:
the component to the stylesheet, and to the wrapper in it, and the unit test to the component. The
types are declared as in the component, and no two files have the same name. -/
theorem synthesize_connected {markup name : String} {config : Config} {origin : Option DesignFile}
    {palette : List String} {made : Artifacts}
    (h : synthesize markup name config origin palette none = .ok made) :
    IsConnected config made := by
  have plain : Lacks '\n' (nameOfString name) := by
    rw [Lacks, nameOfString, String.toList_ofList]
    exact fun hm => absurd (isAlphanum_nameOf name.toList _ hm) (by decide)
  unfold synthesize at h
  split at h
  · cases h
  · split at h
    · cases h
    · cases h
      exact isConnected_artifacts markup (nameOfString name) config origin palette plain

/-- A component in a wrapper, with types and a unit test. -/
theorem synthesize_connected_wrapped :
    ∃ made, synthesize "<svg></svg>" "arrow left"
        { styling := .styledComponents, testing := { unitTests := true } } none
          ["#ff0000"] none = .ok made ∧
      IsConnected { styling := .styledComponents, testing := { unitTests := true } } made := by
  have made : synthesize "<svg></svg>" "arrow left"
      { styling := .styledComponents, testing := { unitTests := true } } none ["#ff0000"] none =
        .ok _ := rfl
  exact ⟨_, made, synthesize_connected made⟩

end Handoff.Component
