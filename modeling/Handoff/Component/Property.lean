import Handoff.Component.Literal
import Handoff.Options.Config

/-! # Properties of components

A component takes the class, the size and the paint of its root as properties, and a title where it
is labelled for screen readers. The root's own values are the defaults.
-/

namespace Handoff.Component

inductive Property where
  | className | width | height | fill | stroke | title
deriving Repr, DecidableEq

namespace Property

def name : Property → String
  | className => "className"
  | width => "width"
  | height => "height"
  | fill => "fill"
  | stroke => "stroke"
  | title => "title"

/-- The properties that take the place of an attribute of the root. -/
def bound : List Property := [className, width, height, fill, stroke]

/-- The attributes of the root that properties take the place of. -/
def boundNames : List String := bound.map name

def all (config : Config) : List Property :=
  if config.accessibility.screenReader then bound ++ [title] else bound

def typeName : Property → String
  | width | height => "number | string"
  | className | fill | stroke | title => "string"

def default? (root : Markup.Root) (componentName : String) : Property → Option String
  | className => some (String.ofList (classDefault root))
  | title => some ("'" ++ componentName ++ "'")
  | property => (root.value? property.name).map fun value => String.ofList (defaultLiteral value)

def member (property : Property) : String := property.name ++ "?: " ++ property.typeName

end Property

/-- What is put between the name of an interface and its members. -/
def extending (base : String) : String := " extends " ++ base

def interfaceLines (componentName heritage : String) (config : Config) : List String :=
  ["export interface " ++ componentName ++ "Props" ++ heritage ++ " \x7b"] ++
  (Property.all config).map (fun property => "  " ++ property.member) ++
  ["\x7d"]

end Handoff.Component
