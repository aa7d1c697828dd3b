import Handoff.Options.Config
import Handoff.Text.Scan
import Handoff.Validation.Language

/-! # Inputs of the tools

Each tool checks its input before it does anything. A file is named by its key or by an address that
holds the key; a node is named by two numbers with a colon between them, or with a hyphen as in
addresses.
-/

namespace Handoff.Service

inductive AnswerFormat where
  | markdown | json
deriving Repr, DecidableEq

namespace AnswerFormat

def name : AnswerFormat → String
  | markdown => "markdown"
  | json => "json"

def all : List AnswerFormat := [markdown, json]

end AnswerFormat

def checkFormat (input : Json) : Checked AnswerFormat :=
  checkField input ["response_format"] .markdown (.choice AnswerFormat.all AnswerFormat.name)

/-! ## File keys -/

/-- The key at the end of an address that starts here. -/
def keyAt? (text : List Char) : Option (List Char) :=
  (Text.Recogniser.sequence [.word "figma.com/", .anyWord ["design/", "file/"]] text).bind
    fun rest => some (rest.takeWhile Char.isAlphanum) |>.filter (!·.isEmpty)

/-- The key in the first address in a text. -/
def keyIn? : List Char → Option (List Char)
  | [] => none
  | c :: rest => (keyAt? (c :: rest)).orElse fun _ => keyIn? rest

def leastKeyLength : Nat := 10

def keyOrAddress : FieldReader String := fun value => do
  let key ← FieldReader.trimmed value
  if key.length < leastKeyLength then .error (.tooShort leastKeyLength)
  else if Text.mentions "figma.com" key then
    match keyIn? key.toList with
    | some found => .ok (String.ofList found)
    | none => .error (.refused "Could not extract file key from Figma URL")
  else .ok key

def checkFileKey (input : Json) : Checked String := checkRequired input "file_key" "" keyOrAddress

/-! ## Inputs -/

/-- The name of a node with colons for hyphens; an empty one is none. -/
def nodeIdOf (given : Option String) : Option String :=
  (given.filter (!·.isEmpty)).map fun id =>
    String.ofList (id.toList.map fun c => if c == '-' then ':' else c)

/-- What is asked for when a component is to be made. -/
structure ComponentRequest where
  fileKey : String
  nodeId : Option String
  framework : Framework
  typescript : Bool
  styling : Styling
  componentLibrary : ComponentLibrary
  componentName : Option String
  unitTests : Bool
  useSvgExport : Bool
  format : AnswerFormat
deriving Repr, DecidableEq

namespace ComponentRequest

def check (input : Json) : Checked ComponentRequest := do
  let fileKey ← checkFileKey input
  let node ← checkField input ["node_id"] none (.optional .trimmed)
  let framework ← checkField input ["framework"] .react (.choice Framework.all Framework.name)
  let typescript ← checkField input ["typescript"] true .bool
  let styling ← checkField input ["styling"] .css (.choice Styling.all Styling.name)
  let componentLibrary ← checkField input ["component_library"] .custom
    (.choice ComponentLibrary.all ComponentLibrary.name)
  let componentName ← checkField input ["component_name"] none (.optional .trimmed)
  let unitTests ← checkField input ["unit_tests"] false .bool
  let useSvgExport ← checkField input ["use_svg_export"] false .bool
  let format ← checkFormat input
  pure { fileKey, nodeId := nodeIdOf node, framework, typescript, styling, componentLibrary,
         componentName, unitTests, useSvgExport, format }

def read (input : Json) : Except (List Problem) ComponentRequest := (check input).toExcept

/-- The options of a request. A component without a name is given another one, which has to be a
string if it is not null. -/
def toConfig (request : ComponentRequest) (otherName : Json) : Except (List Problem) Config :=
  let name := match statedName request.componentName with
    | some name => .string name
    | none => otherName
  (do
    let componentName ← checkField (.object [("component_name", name)]) ["component_name"] none
      (.optional .trimmed)
    pure { framework := request.framework
           typescript := request.typescript
           styling := request.styling
           componentLibrary := request.componentLibrary
           componentName := statedName componentName
           testing := { unitTests := request.unitTests } } : Checked Config).toExcept

end ComponentRequest

/-- What is asked for when the nodes of a file are to be listed. -/
structure FileRequest where
  fileKey : String
  format : AnswerFormat
deriving Repr, DecidableEq

def FileRequest.read (input : Json) : Except (List Problem) FileRequest :=
  (do pure ⟨← checkFileKey input, ← checkFormat input⟩ : Checked FileRequest).toExcept

/-- The language of a name with space around it, in letters of either case. -/
def languageNamed : FieldReader Language := fun value => do
  let given ← FieldReader.string value
  let name := String.ofList (Text.lower (Text.trim given.toList))
  match Language.ofName? name with
  | some found => .ok found
  | none => .error (.refused (Language.unsupported name))

/-- What is asked for when a source is to be validated. -/
structure ValidationRequest where
  code : String
  language : Language
  format : AnswerFormat
deriving Repr, DecidableEq

def ValidationRequest.read (input : Json) : Except (List Problem) ValidationRequest :=
  (do
    let code ← checkRequired input "code" "" .string
    let language ← checkField input ["language"] .typescript languageNamed
    let format ← checkFormat input
    pure { code, language, format } : Checked ValidationRequest).toExcept

/-- What is asked for when a source is to be measured. -/
structure MetricsRequest where
  code : String
  componentName : String
  format : AnswerFormat
deriving Repr, DecidableEq

def MetricsRequest.read (input : Json) : Except (List Problem) MetricsRequest :=
  (do
    let code ← checkRequired input "code" "" .string
    let componentName ← checkField input ["component_name"] "Component" .string
    let format ← checkFormat input
    pure { code, componentName, format } : Checked MetricsRequest).toExcept

end Handoff.Service
