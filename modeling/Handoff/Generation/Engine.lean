import Handoff.Drawing.Extraction
import Handoff.Generation.Waiting
import Handoff.Text.Surrogate

/-! # Generations

A generation runs under a session, which is registered as long as it runs. What its observer does
changes nothing. However a generation ends, its session is released.
-/

namespace Handoff

inductive GenerationError where
  /-- The options have problems. -/
  | options (problems : List Problem)
  /-- The design cannot be read, or its palette cannot be worked out. -/
  | design (fault : DesignError)
  /-- A component cannot be made without an input. -/
  | input (missing : MissingInput)
  /-- A file of the component cannot be encoded. -/
  | encoding (fault : Text.SurrogateFault)

/-- A part of a generation. What it did to the engine stays, also when it fails. -/
abbrev Generation := ExceptT GenerationError (StateM Engine)

namespace Generation

structure Request where
  design : Json
  markup : Option Text.Points := none

/-- Tells the observer about a checkpoint. A failure of the observer is passed over. -/
def report (observer : Observer) (checkpoint : Checkpoint) : Generation Unit := do
  let engine ← getThe Engine
  let notice : Notice := ⟨checkpoint, engine.sessions⟩
  set { engine with notices := engine.notices ++ [notice] }
  match observer notice with
  | .ok () => pure ()
  | .error _ => pure ()

/-- A result as a part of a generation, which fails with a cause if there is none. -/
def attempt {ε α : Type} (cause : ε → GenerationError) (result : Except ε α) : Generation α :=
  ExceptT.mk (pure (result.mapError cause))

/-- What is known of a design before a component is made of it. The markup stands in both of its
writings. -/
structure Findings where
  source : DesignFile
  analysis : Quality.Analysis
  markup : String
  otherMarkup : String
  palette : List String

/-- The markup of a component: what is given, unless it is blank, or else the drawing of the
design. -/
def markupOf (request : Request) : Text.Points :=
  let drawn := Text.Points.ofString (Drawing.ofDesign request.design).render
  match request.markup with
  | some markup => if isBlankText (markup.write .first) then drawn else markup
  | none => drawn

/-- The palette of a file, which is empty without a document. -/
def paletteOf (source : DesignFile) : DesignResult (List String) :=
  match source.document with
  | some root => Palette.collect root Palette.defaultLimit
  | none => pure []

def findingsOf (request : Request) (config : Config) : DesignResult Findings := do
  let source ← DesignFile.read request.design none
  let palette ← paletteOf source
  let markup := markupOf request
  pure {
    source, palette
    analysis := .ofDocument config source.document
    markup := markup.write .first
    otherMarkup := markup.write .second }

/-- The name of a component: as the options say, or as the design is named. -/
def nameFor (config : Config) (source : DesignFile) : String :=
  let stated := (statedName config.componentName).orElse fun _ => statedName source.name
  Component.nameOfString (stated.getD Component.defaultName)

def artifactsOf (config : Config) (findings : Findings) (name : String) :
    Except MissingInput Artifacts :=
  let origin := if findings.source.hasMetadata then some findings.source else none
  Component.synthesize findings.markup name config origin findings.palette none

/-- The files made from the other writing of the markup. -/
def otherArtifactsOf (config : Config) (findings : Findings) (name : String) :
    Except MissingInput Artifacts :=
  artifactsOf config { findings with markup := findings.otherMarkup } name

/-- Encodes files one after the other, given what they are in both writings. -/
def encode (files others : List SourceFile) : Except Text.SurrogateFault Unit :=
  let contents := List.zipWith (fun file other => Text.Points.ofWritings file.content other.content)
    files others
  match contents.findSome? Text.surrogateFault? with
  | some fault => .error fault
  | none => .ok ()

def qualityOf (findings : Findings) (scores : Metrics.Scores) (files : List PlacedFile)
    (validation : FileResults) : Quality.Report :=
  .build scores (validation.map fun (file, result) => (file, result.findings))
    (sourcesByName files |>.map Prod.snd) findings.analysis.suggestions
    (Drawing.isPlaceholder findings.markup)

/-- A generation whose component is made and that goes on to validate its files. -/
structure Draft where
  config : Config
  findings : Findings
  artifacts : Artifacts

def prepare (observer : Observer) (config : Config) (request : Request) : Generation Draft := do
  report observer .analyzing
  let findings ← attempt .design (findingsOf request config)
  report observer .planning
  let name := nameFor config findings.source
  report observer .generating
  let artifacts ← attempt .input (artifactsOf config findings name)
  let others ← attempt .input (otherArtifactsOf config findings name)
  attempt .encoding (encode artifacts.files others.files)
  report observer .validating
  pure { config, findings, artifacts }

/-- The results of the validation of some files, whatever happens until they are there. -/
def validated (compiler : Compiler) (framework : Framework) (happenings : List Happening)
    (files : List PlacedFile) : Generation (List ValidationResult) := do
  let validate := validateFile compiler framework
  let waiting := (Waiting.start files (← getThe Engine)).run validate files happenings
  set waiting.engine
  pure (waiting.settled validate files)

def complete (observer : Observer) (session : String) (draft : Draft)
    (results : List ValidationResult) : Generation Generated := do
  let artifacts := draft.artifacts
  let files := artifacts.placed
  let validation := resultsByName files results
  let logs := buildLogs validation
  report observer .assessing
  let scores := Metrics.Scores.ofCode artifacts.component.content
  let quality := qualityOf draft.findings scores files validation
  report observer .finalizing
  let generated : Generated := {
    session, artifacts, files, scores, validation, logs, quality
    config := draft.config
    places := .ofArtifacts artifacts
    styleBundle := .ofCode artifacts.stylesheet.content
    status := .ofLogs logs
    analysis := draft.findings.analysis
    preview := Preview.page artifacts.component.content draft.config.framework }
  report observer .complete
  pure generated

def body (compiler : Compiler) (observer : Observer) (session : String)
    (happenings : List Happening) (config : Config) (request : Request) :
    Generation Generated := do
  let draft ← prepare observer config request
  let results ← validated compiler config.framework happenings draft.artifacts.placed
  complete observer session draft results

end Generation

namespace Engine

/-- Runs a generation under a session of its own, with what happens while it waits. -/
def generateAmid (compiler : Compiler) (observer : Observer) (session : String)
    (happenings : List Happening) (config : Config) (request : Generation.Request)
    (engine : Engine) : Except GenerationError Generated × Engine :=
  let (outcome, after) :=
    (Generation.body compiler observer session happenings config request).run
      (engine.register session)
  (outcome, after.release session)

/-- Runs a generation with options as a caller gives them. Options with problems are refused before
the session is registered. -/
def generateWithAmid (compiler : Compiler) (observer : Observer) (session : String)
    (happenings : List Happening) (options : Json) (request : Generation.Request)
    (engine : Engine) : Except GenerationError Generated × Engine :=
  match Config.read options with
  | .error problems => (.error (.options problems), engine)
  | .ok config => engine.generateAmid compiler observer session happenings config request

def generate (compiler : Compiler) (observer : Observer) (session : String) (config : Config)
    (request : Generation.Request) (engine : Engine) : Except GenerationError Generated × Engine :=
  engine.generateAmid compiler observer session [] config request

/-- Runs a generation that nothing happens to, with options as a caller gives them. -/
def generateWith (compiler : Compiler) (observer : Observer) (session : String) (options : Json)
    (request : Generation.Request) (engine : Engine) : Except GenerationError Generated × Engine :=
  engine.generateWithAmid compiler observer session [] options request

end Engine

end Handoff
