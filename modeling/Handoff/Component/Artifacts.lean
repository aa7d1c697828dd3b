import Handoff.Component.Angular
import Handoff.Component.React
import Handoff.Component.Svelte
import Handoff.Component.Vue
import Handoff.Design.File
import Handoff.Entries
import Handoff.Markup.Normal

/-! # The files of a component

A drawing and a name become a component, its stylesheet and, as the options ask, a file of types and
a unit test. Both the name and the drawing have to say something.
-/

namespace Handoff

structure SourceFile where
  name : String
  content : String
deriving Repr, DecidableEq

structure Artifacts where
  name : String
  framework : Framework
  typescript : Bool
  styling : Styling
  component : SourceFile
  stylesheet : SourceFile
  types : Option SourceFile
  test : Option SourceFile
deriving Repr, DecidableEq

namespace Artifacts

def parts (artifacts : Artifacts) : List SourceFile :=
  [artifacts.component, artifacts.stylesheet] ++ artifacts.types.toList ++ artifacts.test.toList

def contents (artifacts : Artifacts) : Entries String :=
  .ofList (artifacts.parts.map fun file => (file.name, file.content))

/-- All files, the component first. -/
def files (artifacts : Artifacts) : List SourceFile :=
  artifacts.contents.map fun (name, content) => ⟨name, content⟩

end Artifacts

/-- What a component cannot be made without. -/
inductive MissingInput where
  | name
  | markup
deriving Repr, DecidableEq

def MissingInput.message : MissingInput → String
  | name => "Component name is required"
  | markup => "Markup fragment is required"

def isBlankText (text : String) : Bool := text.toList.all Text.isSpace

namespace Component

def fileName (name : String) (config : Config) : String :=
  match config.framework with
  | .react => name ++ (if config.typescript then ".tsx" else ".jsx")
  | .vue => name ++ ".vue"
  | .angular => name ++ ".component." ++ Stylesheet.scriptExtension config
  | .svelte => name ++ ".svelte"

def testFileName (name : String) (config : Config) : String :=
  name ++ ".test." ++ Stylesheet.scriptExtension config ++
    if config.framework == .react then "x" else ""

def typesFileName (name : String) : String := name ++ ".types.ts"

def source (blueprint : Blueprint) : String :=
  match blueprint.config.framework with
  | .react => React.source blueprint
  | .vue => Vue.source blueprint
  | .angular => Angular.source blueprint
  | .svelte => Svelte.source blueprint

def testSource (name : String) (framework : Framework) : String :=
  match framework with
  | .react => React.testSource name
  | .vue => Vue.testSource name
  | .angular => Angular.testSource name
  | .svelte => Svelte.testSource name

/-- The lines of the header: where the design comes from, and the component library. -/
def headerLines (config : Config) (origin : Option DesignFile) : List String :=
  (origin.map DesignFile.headerLines).getD [] ++
  if config.componentLibrary == .custom then []
  else ["Component library: " ++ config.componentLibrary.name]

/-- The blueprint of a component with a name that is already in form. -/
def blueprint (markup name : String) (config : Config) (origin : Option DesignFile) : Blueprint :=
  { name := name
    className := classOfString name
    config := config
    stylesheet := Stylesheet.fileName name config
    header := headerLines config origin
    root := Markup.splitRoot (Markup.normalForm markup.toList) }

/-- The files of a component with a name that is already in form. -/
def artifacts (markup name : String) (config : Config) (origin : Option DesignFile)
    (palette : List String) (stylesheet : Option String) : Artifacts :=
  { name := name
    framework := config.framework
    typescript := config.typescript
    styling := Stylesheet.effectiveStyling config
    component := ⟨fileName name config, source (blueprint markup name config origin)⟩
    stylesheet := ⟨Stylesheet.fileName name config,
      stylesheet.getD (Stylesheet.generate name config palette)⟩
    types :=
      if config.typescript then
        some ⟨typesFileName name, Stylesheet.text (interfaceLines name "" config)⟩
      else none
    test :=
      if config.testing.unitTests then
        some ⟨testFileName name config, testSource name config.framework⟩
      else none }

/-- The files of a component, from a name in any form. A stylesheet from outside is kept as it
is. -/
def synthesize (markup name : String) (config : Config) (origin : Option DesignFile)
    (palette : List String) (stylesheet : Option String) : Except MissingInput Artifacts :=
  if isBlankText name then .error .name
  else if isBlankText markup then .error .markup
  else .ok (artifacts markup (nameOfString name) config origin palette stylesheet)

end Component

end Handoff
