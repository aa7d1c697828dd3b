import Handoff.Component.Property
import Handoff.Markup.Attribute
import Handoff.Markup.Layout

/-! # Blueprints

A blueprint holds what a component is written from, whatever the framework: its names, the options,
the stylesheet, the lines of its header and the root of its drawing. All frameworks write the root
tag and the body of the drawing in one way, up to the dialect of attribute names and the binding of
properties.
-/

namespace Handoff.Component

open Text (joinLines)

/-- What a component is written from. -/
structure Blueprint where
  name : String
  className : String
  config : Config
  stylesheet : String
  header : List String
  root : Markup.Root

def joinSections (sections : List String) : String := "\n\n".intercalate sections

/-- A line with some more spaces before it. -/
def indented (spaces : Nat) (line : String) : String :=
  String.ofList (List.replicate spaces ' ') ++ line

namespace Blueprint

def isLabelled (blueprint : Blueprint) : Bool := blueprint.config.accessibility.screenReader

def rootAttributes (attributes : List Markup.Attribute) : String :=
  String.ofList (Markup.renderAttributes attributes)

/-- A label that is always the name of the component. -/
def fixedLabel (blueprint : Blueprint) : String :=
  if blueprint.isLabelled then " role=\"img\" aria-label=\"" ++ blueprint.name ++ "\"" else ""

/-- The tag of the root. Where properties are passed, the attributes that they take the place of are
left out, and the binding of the properties, that of the label and a remainder follow. -/
def rootTag (blueprint : Blueprint) (binding label remainder : String) : String :=
  if blueprint.config.passProps then
    "<svg" ++ rootAttributes (blueprint.root.without Property.boundNames) ++ binding ++
      (if blueprint.isLabelled then " role=\"img\"" ++ label else "") ++ remainder ++ ">"
  else "<svg" ++ rootAttributes blueprint.root.attributes ++ blueprint.fixedLabel ++ ">"

def plainRootTag (blueprint : Blueprint) (binding label : String) : String :=
  Markup.toPlain (blueprint.rootTag binding label "")

/-- What stands inside the root, laid out from an indentation on. -/
def bodyLines (blueprint : Blueprint) (indent : Nat) : List String :=
  (Markup.layout indent Markup.defaultStep blueprint.root.inner).map String.ofList

/-- What stands inside the root, in the plain dialect. -/
def plainBodyLines (blueprint : Blueprint) (indent : Nat) : List String :=
  (Markup.layout indent Markup.defaultStep (Markup.toPlainNames blueprint.root.inner)).map
    String.ofList

def interface (blueprint : Blueprint) (heritage : String) : List String :=
  interfaceLines blueprint.name heritage blueprint.config

def default? (blueprint : Blueprint) (property : Property) : Option String :=
  property.default? blueprint.root blueprint.name

def defaultOrUndefined (blueprint : Blueprint) (property : Property) : String :=
  (blueprint.default? property).getD "undefined"

def properties (blueprint : Blueprint) : List Property := Property.all blueprint.config

/-- The lines of the header below the name of the component. -/
def headed (blueprint : Blueprint) (lead : String) : List String :=
  (blueprint.name :: blueprint.header).map (lead ++ ·)

/-- The header as a comment of a script; there is none without lines. -/
def scriptHeader? (blueprint : Blueprint) : Option String :=
  if blueprint.header.isEmpty then none
  else some (joinLines (["/**"] ++ blueprint.headed " * " ++ [" */"]))

/-- The header as a comment of markup, with the end of its line; empty without lines. -/
def markupHeader (blueprint : Blueprint) : String :=
  if blueprint.header.isEmpty then ""
  else joinLines (["<!--"] ++ blueprint.headed "  " ++ ["-->"]) ++ "\n"

end Blueprint

end Handoff.Component
