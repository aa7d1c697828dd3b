import Handoff.Design.Node

/-! # Design files

A file is a document with some facts about it. It arrives as a bare node, as an object that holds
the document, or as an object that holds such a file.
-/

namespace Handoff

/-- The document in a value: under `document`, under `file` and `document`, or the value itself. -/
def Json.unwrapDocument (value : Json) : Json :=
  let direct := value.field "document"
  let nested := (value.field "file").field "document"
  if direct.isObject then direct else if nested.isObject then nested else value

structure DesignFile where
  document : Option Node
  key : Option String
  name : Option String
  lastModified : Option String
  thumbnailUrl : Option String
  version : Option String
  components : Json.Fields
  styles : Json.Fields

namespace DesignFile

/-- The object that holds the facts about a file. -/
def metadata (value : Json) : Json :=
  if (value.field "file").isObject then value.field "file"
  else if (value.get? "document").isSome then value
  else .object []

/-- A fact as a text; null is no fact. -/
def fact (metadata : Json) (key : String) : Option String :=
  match metadata.field key with
  | .null => none
  | value => some value.display

/-- The file in a value. A key given from outside comes before the file's own, unless empty. -/
def read (value : Json) (key : Option String) : DesignResult DesignFile := do
  let metadata := metadata value
  let root := value.unwrapDocument
  let document ← if root.isObject then some <$> Node.read root else pure none
  pure {
    document := document
    key := (key.filter (!·.isEmpty)).orElse fun _ => fact metadata "key"
    name := fact metadata "name"
    lastModified := fact metadata "lastModified"
    thumbnailUrl := fact metadata "thumbnailUrl"
    version := fact metadata "version"
    components := ((metadata.field "components").fields?).getD []
    styles := ((metadata.field "styles").fields?).getD [] }

/-- A fact that says something. -/
def stated (fact : Option String) : Option String := fact.filter (!·.isEmpty)

def hasMetadata (file : DesignFile) : Bool :=
  (stated file.key).isSome || (stated file.name).isSome || (stated file.lastModified).isSome

def originLine (file : DesignFile) : Option String :=
  match stated file.name, stated file.key with
  | some name, some key => some s!"Generated from Figma file \"{name}\" ({key})"
  | some name, none => some s!"Generated from Figma file \"{name}\""
  | none, some key => some s!"Generated from Figma file {key}"
  | none, none => none

def headerLines (file : DesignFile) : List String :=
  file.originLine.toList ++
    ((stated file.lastModified).map ("Last modified: " ++ ·)).toList ++
    ((stated file.thumbnailUrl).map ("Thumbnail: " ++ ·)).toList

/-- The nodes of the file that can be exported on their own, in document order. -/
def exportableIds (root : Node) : List String :=
  (root.walk.filter (·.kind.isExportable)).map Node.id

end DesignFile

/-! ## The palette -/

namespace Palette

/-- The colors of the visible solid fills of some nodes, in order and with repetitions. -/
def fillColors (nodes : List Node) : List Color :=
  (nodes.flatMap Node.fills).filterMap fun paint =>
    if paint.visible && paint.isSolid then paint.color else none

/-- Adds colors, each once, until there are enough of them; the rest is not looked at. -/
def collectFrom (limit : Int) (found : List String) : List Color → DesignResult (List String)
  | [] => pure found
  | color :: rest => do
    let hex ← color.hex
    let found := if found.contains hex then found else found ++ [hex]
    if limit ≤ found.length then pure found else collectFrom limit found rest

/-- How many colors a palette has unless asked otherwise. -/
def defaultLimit : Int := 8

/-- The first colors of a design, each once, in document order. -/
def collect (root : Node) (limit : Int) : DesignResult (List String) :=
  collectFrom limit [] (fillColors root.walk)

end Palette

end Handoff
