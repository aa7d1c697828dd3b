import Handoff.Component.Blueprint
import Handoff.Stylesheet.Text

/-! # Components for Svelte

Two scripts, one of the module and one of each instance, and the drawing below them.
-/

namespace Handoff.Component.Svelte

open Text (joinLines)

def scriptLanguage (blueprint : Blueprint) : String :=
  if blueprint.config.typescript then " lang=\"ts\"" else ""

def moduleLines (blueprint : Blueprint) : List String :=
  ["<script context=\"module\"" ++ scriptLanguage blueprint ++ ">",
   "  export const componentName = '" ++ blueprint.name ++ "'"] ++
  (if blueprint.config.typescript then "" :: (blueprint.interface "").map (indented 2) else []) ++
  ["</script>"]

/-- The type of a property; without a default, it may be undefined. -/
def annotation (blueprint : Blueprint) (property : Property) : String :=
  if blueprint.config.typescript then
    ": " ++ property.typeName ++
      if (blueprint.default? property).isNone then " | undefined" else ""
  else ""

def propertyLine (blueprint : Blueprint) (property : Property) : String :=
  "  export let " ++ property.name ++ annotation blueprint property ++ " = " ++
    blueprint.defaultOrUndefined property

def propertyLines (blueprint : Blueprint) : List String :=
  if blueprint.config.passProps then "" :: blueprint.properties.map (propertyLine blueprint) else []

def instanceLines (blueprint : Blueprint) : List String :=
  ["<script" ++ scriptLanguage blueprint ++ ">", "  import './" ++ blueprint.stylesheet ++ "'"] ++
  propertyLines blueprint ++
  ["</script>"]

def rootTag (blueprint : Blueprint) : String :=
  blueprint.plainRootTag
    (" class=\"" ++ blueprint.className ++ " \x7bclassName\x7d\"" ++
      " width=\x7bwidth\x7d height=\x7bheight\x7d fill=\x7bfill\x7d stroke=\x7bstroke\x7d")
    " aria-label=\x7btitle\x7d"

def drawingLines (blueprint : Blueprint) : List String :=
  [rootTag blueprint] ++ blueprint.plainBodyLines 2 ++ ["</svg>"]

def source (blueprint : Blueprint) : String :=
  blueprint.markupHeader ++
  joinSections [joinLines (moduleLines blueprint), joinLines (instanceLines blueprint),
    joinLines (drawingLines blueprint)] ++
  "\n"

def testSource (name : String) : String :=
  Stylesheet.text [
    "import \x7b render \x7d from '@testing-library/svelte'",
    "import " ++ name ++ " from './" ++ name ++ ".svelte'",
    "",
    "describe('" ++ name ++ "', () => \x7b",
    "  it('renders an svg element', () => \x7b",
    "    const \x7b container \x7d = render(" ++ name ++ ")",
    "    expect(container.querySelector('svg')).not.toBeNull()",
    "  \x7d)",
    "\x7d)"]

end Handoff.Component.Svelte
