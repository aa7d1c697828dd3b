import Handoff.Component.Blueprint
import Handoff.Stylesheet.Text

/-! # Components for React

A function component in JSX. Its parameters carry the defaults, and what else is passed goes to the
root. With styled components, a wrapper from the stylesheet's module stands around the root.
-/

namespace Handoff.Component.React

open Text (joinLines)

/-- Whether the component stands in a wrapper from its stylesheet's module. -/
def isWrapped (blueprint : Blueprint) : Bool := blueprint.config.styling == .styledComponents

def importLines (blueprint : Blueprint) : List String :=
  ["import React from 'react'",
   if isWrapped blueprint then
     "import \x7b " ++ blueprint.name ++ "Wrapper \x7d from './" ++
       Stylesheet.moduleName blueprint.name blueprint.config ++ "'"
   else "import './" ++ blueprint.stylesheet ++ "'"]

def rootTag (blueprint : Blueprint) : String :=
  blueprint.rootTag
    (" className=\x7b`" ++ blueprint.className ++ " $\x7bclassName\x7d`.trim()\x7d" ++
      " width=\x7bwidth\x7d height=\x7bheight\x7d fill=\x7bfill\x7d stroke=\x7bstroke\x7d")
    " aria-label=\x7btitle\x7d" " \x7b...props\x7d"

def rootIndent (blueprint : Blueprint) : Nat := if isWrapped blueprint then 6 else 4

def drawingLines (blueprint : Blueprint) : List String :=
  let indent := rootIndent blueprint
  let lines := [indented indent (rootTag blueprint)] ++ blueprint.bodyLines (indent + 2) ++
    [indented indent "</svg>"]
  if isWrapped blueprint then
    ["    <" ++ blueprint.name ++ "Wrapper>"] ++ lines ++ ["    </" ++ blueprint.name ++ "Wrapper>"]
  else lines

def parameter (blueprint : Blueprint) (property : Property) : String :=
  match blueprint.default? property with
  | some value => property.name ++ " = " ++ value
  | none => property.name

def parameters (blueprint : Blueprint) : String :=
  if blueprint.config.passProps then
    "(\x7b " ++ ", ".intercalate (blueprint.properties.map (parameter blueprint) ++ ["...props"]) ++
      " \x7d)"
  else "()"

def heritage : String := extending "React.SVGProps<SVGSVGElement>"

def typedName (blueprint : Blueprint) : String :=
  if blueprint.config.typescript then
    blueprint.name ++ ": React.FC<" ++ blueprint.name ++ "Props>"
  else blueprint.name

def declaration (blueprint : Blueprint) : String :=
  joinLines (
    ["const " ++ typedName blueprint ++ " = " ++ parameters blueprint ++ " => \x7b",
     "  return ("] ++ drawingLines blueprint ++ ["  )", "\x7d"])

def exportLines (blueprint : Blueprint) : List String :=
  (if blueprint.config.optimization.treeshaking then ["export \x7b " ++ blueprint.name ++ " \x7d"]
    else []) ++
  ["export default " ++ blueprint.name]

/-- The header with the end of its line; empty without lines. -/
def header (blueprint : Blueprint) : String :=
  (blueprint.scriptHeader?.map (· ++ "\n")).getD ""

def source (blueprint : Blueprint) : String :=
  header blueprint ++
  joinSections (
    [joinLines (importLines blueprint)] ++
    (if blueprint.config.typescript then [joinLines (blueprint.interface heritage)] else []) ++
    [declaration blueprint, joinLines (exportLines blueprint)]) ++
  "\n"

def testSource (name : String) : String :=
  Stylesheet.text [
    "import React from 'react'",
    "import \x7b render \x7d from '@testing-library/react'",
    "import " ++ name ++ " from './" ++ name ++ "'",
    "",
    "describe('" ++ name ++ "', () => \x7b",
    "  it('renders an svg element', () => \x7b",
    "    const \x7b container \x7d = render(<" ++ name ++ " />)",
    "    expect(container.querySelector('svg')).not.toBeNull()",
    "  \x7d)",
    "\x7d)"]

end Handoff.Component.React
