import Handoff.Failure.Report
import Handoff.Generation.Engine
import Handoff.Options.Report
import Handoff.Service.Answer
import Handoff.Service.Exchange
import Handoff.Service.Lookup
import Handoff.Service.Resource

/-! # Tools

Four tools make a component, list the nodes of a file, validate a source and measure one. Whatever
goes wrong once the input is accepted is told in the answer.
-/

namespace Handoff.Service

/-- Runs a part of a tool's work; a failure becomes the answer. -/
def answered (work : Client String) (exchange : Exchange) : String × Exchange :=
  match work.run exchange with
  | (.ok answer, after) => (answer, after)
  | (.error failure, after) => (failure.answer, after)

def fieldsOf (value : Json) (member : String) : Client Json.Fields :=
  match value with
  | .object fields => pure fields
  | value => Client.ofExcept (.error (.notAnObject value member))

def optionsFailure (problems : List Problem) : Failure :=
  .of .badOptions (Problem.report "GenerationConfig" problems)

def generationFailure : GenerationError → Failure
  | .options problems => optionsFailure problems
  | .design fault => .ofDesign fault
  | .input missing => .of .missingInput missing.message
  | .encoding fault => .of .badValue fault.message

/-! ## Making a component -/

/-- A design that a component is made of, and what is said of where it comes from. -/
structure Selection where
  design : Json
  name : Json
  label : String

namespace Selection

def fileLabel (key : String) : String := "file " ++ inCode key

def file (key : String) (fields : Json.Fields) : Selection :=
  { design := .object fields
    name := (Json.object fields).field "name"
    label := fileLabel key }

/-- One node of a file, which lends the node its name if that has none. -/
def node (key id : String) (fields : Json.Fields) (found : Json) : Selection :=
  let name := found.field "name"
  { design := .object (scopedTo found fields)
    name := if name.isTruthy then name else (Json.object fields).field "name"
    label := "node " ++ inCode id ++ " of " ++ fileLabel key }

end Selection

/-- A file with its key, unless it has a key of its own. -/
def withKey (key : String) (fields : Json.Fields) : Json.Fields :=
  if (Json.Fields.get? fields "key").isSome then fields
  else Json.Fields.put "key" (.string key) fields

def addressFailure (address : Json) : Failure :=
  .of .badType ("Invalid type for url.  Expected str or httpx.URL, got <class '" ++
    address.kindWord ++ "'>: " ++ address.literal)

def renderingOf (credentials : Credentials) (key id : String) : Client (Option String) := do
  let images ← fieldsOf (← Client.fetch credentials (renderingAddress key) (renderingFields id))
    "get"
  let renderings ← fieldsOf ((Json.object images).fieldOr "images" (.object [])) "get"
  let address := (Json.object renderings).field id
  if !address.isTruthy then pure none
  else match address with
    | .string address => some <$> Client.download (Address.read address.toList)
    | address => Client.ofExcept (.error (addressFailure address))

def generateFrom (compiler : Compiler) (session : String) (request : ComponentRequest)
    (selection : Selection) (markup : Option String) : Except Failure String := do
  let config ← (request.toConfig selection.name).mapError optionsFailure
  let (outcome, _) := Engine.generate compiler (fun _ => .ok ()) session config
    { design := selection.design, markup := markup.map .ofString } {}
  let generated ← outcome.mapError generationFailure
  pure (GeneratedAnswer.render request.format generated selection.label)

def componentWork (compiler : Compiler) (session : String) (credentials : Credentials)
    (request : ComponentRequest) : Client String := do
  let key := request.fileKey
  let fields ← fieldsOf (← Client.fetch credentials (fileAddress key)) "setdefault"
  let file := withKey key fields
  match request.nodeId with
  | none =>
    Client.ofExcept (generateFrom compiler session request (.file key file) none)
  | some id =>
    let document := (Json.object file).fieldOr "document" (.object [])
    let _ ← fieldsOf document "get"
    match findNode document (.string id) with
    | none => pure ("Error: Node '" ++ id ++ "' not found.")
    | some found =>
      let selection := Selection.node key id file found
      if request.useSvgExport then
        match ← renderingOf credentials key id with
        | none => pure ("Error: Figma could not render node '" ++ id ++ "' as SVG.")
        | some markup =>
          Client.ofExcept (generateFrom compiler session request selection (some markup))
      else Client.ofExcept (generateFrom compiler session request selection none)

/-- Makes a component of a file or of one of its nodes. -/
def generateComponent (compiler : Compiler) (session : String)
    (credentials : Credentials) (request : ComponentRequest) (exchange : Exchange) :
    String × Exchange :=
  answered (componentWork compiler session credentials request) exchange

/-! ## Listing nodes -/

/-- The work of listing the nodes that can be exported on their own. -/
def listingWork (credentials : Credentials) (request : FileRequest) : Client String := do
  let file ← Client.fetch credentials (fileAddress request.fileKey)
  let fields ← fieldsOf file "get"
  let root ← Client.ofExcept ((Node.read file.unwrapDocument).mapError Failure.ofDesign)
  let ids := DesignFile.exportableIds root
  pure <| match request.format with
    | .json =>
      (ListingAnswer.toJson request.fileKey ((Json.object fields).field "name") ids).indented
    | .markdown =>
      let name := (Json.object fields).fieldOr "name" (.string request.fileKey)
      cutOff (ListingAnswer.markdown name.display ids)

/-- Lists the nodes of a file that can be exported on their own. -/
def listExportable (credentials : Credentials) (request : FileRequest) (exchange : Exchange) :
    String × Exchange :=
  answered (listingWork credentials request) exchange

/-! ## Sources -/

def validateCode (compiler : Compiler) (request : ValidationRequest) : String :=
  ValidationAnswer.render request.format
    (Validation.validate compiler (some request.code) request.language.name) request.language

def measureCode (request : MetricsRequest) : String :=
  MetricsAnswer.render request.format (.ofCode request.code)
    (.ofCode request.componentName request.code)

end Handoff.Service
