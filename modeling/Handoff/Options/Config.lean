import Handoff.Options.Checked

/-! # Generation options

The target framework, typing, styling and three groups of switches. Every option has a default, and
its key may be written in either of two spellings.
-/

namespace Handoff

inductive Framework where
  | react | vue | angular | svelte
deriving Repr, DecidableEq

namespace Framework

def name : Framework → String
  | react => "react"
  | vue => "vue"
  | angular => "angular"
  | svelte => "svelte"

def all : List Framework := [react, vue, angular, svelte]

def ofName? (name : String) : Option Framework := all.find? (·.name == name)

end Framework

inductive Styling where
  | css | scss | styledComponents | tailwind
deriving Repr, DecidableEq

namespace Styling

def name : Styling → String
  | css => "css"
  | scss => "scss"
  | styledComponents => "styled-components"
  | tailwind => "tailwind"

def all : List Styling := [css, scss, styledComponents, tailwind]

end Styling

inductive ComponentLibrary where
  | custom | mui | antd | chakra
deriving Repr, DecidableEq

namespace ComponentLibrary

def name : ComponentLibrary → String
  | custom => "custom"
  | mui => "mui"
  | antd => "antd"
  | chakra => "chakra"

def all : List ComponentLibrary := [custom, mui, antd, chakra]

end ComponentLibrary

inductive WcagLevel where
  | a | aa | aaa
deriving Repr, DecidableEq

namespace WcagLevel

def name : WcagLevel → String
  | a => "A"
  | aa => "AA"
  | aaa => "AAA"

def all : List WcagLevel := [a, aa, aaa]

end WcagLevel

structure Optimization where
  treeshaking : Bool := true
  bundleAnalysis : Bool := false
  codesplitting : Bool := false
  lazyLoading : Bool := false
deriving Repr, DecidableEq

structure Accessibility where
  wcagLevel : WcagLevel := .aa
  screenReader : Bool := true
  keyboardNavigation : Bool := true
  colorContrast : Bool := true
deriving Repr, DecidableEq

structure Testing where
  unitTests : Bool := false
  integrationTests : Bool := false
  endToEndTests : Bool := false
  visualRegression : Bool := false
deriving Repr, DecidableEq

structure Config where
  framework : Framework := .react
  typescript : Bool := true
  styling : Styling := .css
  componentLibrary : ComponentLibrary := .custom
  passProps : Bool := true
  componentName : Option String := none
  optimization : Optimization := {}
  accessibility : Accessibility := {}
  testing : Testing := {}
deriving Repr, DecidableEq

def statedName (name : Option String) : Option String := name.filter (!·.isEmpty)

def Optimization.check (value : Json) : Checked Optimization := do
  let treeshaking ← checkField value ["treeshaking"] true .bool
  let bundleAnalysis ← checkField value ["bundleAnalysis", "bundle_analysis"] false .bool
  let codesplitting ← checkField value ["codesplitting"] false .bool
  let lazyLoading ← checkField value ["lazyLoading", "lazy_loading"] false .bool
  pure { treeshaking, bundleAnalysis, codesplitting, lazyLoading }

def Accessibility.check (value : Json) : Checked Accessibility := do
  let wcagLevel ←
    checkField value ["wcagLevel", "wcag_level"] .aa (.choice WcagLevel.all WcagLevel.name)
  let screenReader ← checkField value ["screenReader", "screen_reader"] true .bool
  let keyboardNavigation ←
    checkField value ["keyboardNavigation", "keyboard_navigation"] true .bool
  let colorContrast ← checkField value ["colorContrast", "color_contrast"] true .bool
  pure { wcagLevel, screenReader, keyboardNavigation, colorContrast }

def Testing.check (value : Json) : Checked Testing := do
  let unitTests ← checkField value ["unitTests", "unit_tests"] false .bool
  let integrationTests ← checkField value ["integrationTests", "integration_tests"] false .bool
  let endToEndTests ← checkField value ["e2ETests", "e2e_tests"] false .bool
  let visualRegression ← checkField value ["visualRegression", "visual_regression"] false .bool
  pure { unitTests, integrationTests, endToEndTests, visualRegression }

namespace Config

def check (value : Json) : Checked Config := do
  let framework ← checkField value ["framework"] .react (.choice Framework.all Framework.name)
  let typescript ← checkField value ["typescript"] true .bool
  let styling ← checkField value ["styling"] .css (.choice Styling.all Styling.name)
  let componentLibrary ← checkField value ["componentLibrary", "component_library"] .custom
    (.choice ComponentLibrary.all ComponentLibrary.name)
  let passProps ← checkField value ["passProps", "pass_props"] true .bool
  let componentName ←
    checkField value ["componentName", "component_name"] none (.optional .trimmed)
  let optimization ←
    checkGroup value "optimization" "OptimizationOptions" {} Optimization.check
  let accessibility ←
    checkGroup value "accessibility" "AccessibilityOptions" {} Accessibility.check
  let testing ← checkGroup value "testing" "TestingOptions" {} Testing.check
  pure { framework, typescript, styling, componentLibrary, passProps,
         componentName := statedName componentName, optimization, accessibility, testing }

/-- The options that a caller gives; null stands for the defaults. -/
def read : Json → Except (List Problem) Config
  | .null => .ok {}
  | value => (check value).toExcept

def isJsx (config : Config) : Bool := config.framework == .react

/-- The options as an object, in the order of their declaration. -/
def toJson (config : Config) : Json :=
  .object [
    ("framework", .string config.framework.name),
    ("typescript", .bool config.typescript),
    ("styling", .string config.styling.name),
    ("componentLibrary", .string config.componentLibrary.name),
    ("passProps", .bool config.passProps),
    ("componentName", match config.componentName with
      | some name => .string name
      | none => .null),
    ("optimization", .object [
      ("treeshaking", .bool config.optimization.treeshaking),
      ("bundleAnalysis", .bool config.optimization.bundleAnalysis),
      ("codesplitting", .bool config.optimization.codesplitting),
      ("lazyLoading", .bool config.optimization.lazyLoading)]),
    ("accessibility", .object [
      ("wcagLevel", .string config.accessibility.wcagLevel.name),
      ("screenReader", .bool config.accessibility.screenReader),
      ("keyboardNavigation", .bool config.accessibility.keyboardNavigation),
      ("colorContrast", .bool config.accessibility.colorContrast)]),
    ("testing", .object [
      ("unitTests", .bool config.testing.unitTests),
      ("integrationTests", .bool config.testing.integrationTests),
      ("e2ETests", .bool config.testing.endToEndTests),
      ("visualRegression", .bool config.testing.visualRegression)])]

end Config

end Handoff
