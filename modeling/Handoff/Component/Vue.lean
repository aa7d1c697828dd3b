import Handoff.Component.Blueprint
import Handoff.Stylesheet.Text

/-! # Components for Vue

A single file with a template, a script that declares the properties, and a reference to the
stylesheet.
-/

namespace Handoff.Component.Vue

open Text (joinLines)

def rootTag (blueprint : Blueprint) : String :=
  blueprint.plainRootTag
    (" class=\"" ++ blueprint.className ++ "\" :class=\"className\"" ++
      " :width=\"width\" :height=\"height\" :fill=\"fill\" :stroke=\"stroke\"")
    " :aria-label=\"title\""

def templateLines (blueprint : Blueprint) : List String :=
  ["<template>", "  " ++ rootTag blueprint] ++ blueprint.plainBodyLines 4 ++
  ["  </svg>", "</template>"]

/-- The constructors that check a property when the program runs. -/
def runtimeType : Property → String
  | .width | .height => "[Number, String]"
  | .className | .fill | .stroke | .title => "String"

/-- The type of a property, with its static type where types are written. -/
def propertyType (typescript : Bool) (property : Property) : String :=
  if typescript then runtimeType property ++ " as PropType<" ++ property.typeName ++ ">"
  else runtimeType property

def propertyLine (blueprint : Blueprint) (property : Property) : String :=
  "    " ++ property.name ++ ": \x7b type: " ++
    propertyType blueprint.config.typescript property ++ ", default: " ++
    blueprint.defaultOrUndefined property ++ " \x7d,"

def propertyLines (blueprint : Blueprint) : List String :=
  ["  props: \x7b"] ++ blueprint.properties.map (propertyLine blueprint) ++ ["  \x7d,"]

def scriptLines (blueprint : Blueprint) : List String :=
  (if blueprint.config.typescript then
    ["<script lang=\"ts\">", "import \x7b defineComponent, type PropType \x7d from 'vue'", ""] ++
      blueprint.interface "" ++ [""]
  else ["<script>", "import \x7b defineComponent \x7d from 'vue'", ""]) ++
  ["export default defineComponent(\x7b", "  name: '" ++ blueprint.name ++ "',"] ++
  (if blueprint.config.passProps then propertyLines blueprint else []) ++
  ["\x7d)", "</script>"]

def styleBlock (blueprint : Blueprint) : String :=
  let language := if blueprint.config.styling == .scss then " lang=\"scss\"" else ""
  "<style scoped" ++ language ++ " src=\"./" ++ blueprint.stylesheet ++ "\"></style>"

def source (blueprint : Blueprint) : String :=
  blueprint.markupHeader ++
  joinSections [joinLines (templateLines blueprint), joinLines (scriptLines blueprint),
    styleBlock blueprint] ++
  "\n"

def testSource (name : String) : String :=
  Stylesheet.text [
    "import \x7b mount \x7d from '@vue/test-utils'",
    "import " ++ name ++ " from './" ++ name ++ ".vue'",
    "",
    "describe('" ++ name ++ "', () => \x7b",
    "  it('renders an svg element', () => \x7b",
    "    const wrapper = mount(" ++ name ++ ")",
    "    expect(wrapper.find('svg').exists()).toBe(true)",
    "  \x7d)",
    "\x7d)"]

end Handoff.Component.Vue
