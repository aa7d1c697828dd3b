import Handoff.Generation.Engine
import Handoff.Proofs.Component.Label
import Handoff.Proofs.Generation.Waiting
import Handoff.Proofs.Text.Surrogate

/-! # The course of a generation

A generation stops when it reads the design, or when it encodes a file with a surrogate that was
given in the markup, or it comes to its end: there is always a name and always some markup, and
each failure of a validation is a finding. What the observer does plays no part.
-/

namespace Handoff

/-- An engine whose observer has been told about a checkpoint. -/
def Engine.tell (checkpoint : Checkpoint) (engine : Engine) : Engine :=
  { engine with notices := engine.notices ++ [⟨checkpoint, engine.sessions⟩] }

/-- An engine whose observer has been told about several checkpoints. -/
def Engine.tellAll (checkpoints : List Checkpoint) (engine : Engine) : Engine :=
  checkpoints.foldl (fun engine checkpoint => engine.tell checkpoint) engine

/-- What an observer is told between two states of an engine: percentages in their order, each while
a session is registered. -/
def Told (session : String) (engine after : Engine) (percents : List Nat) : Prop :=
  ∃ notices, after.notices = engine.notices ++ notices ∧
    notices.map (·.checkpoint.percent) = percents ∧ ∀ notice ∈ notices, session ∈ notice.sessions

section Told

variable {session : String} {engine now others : Engine} {percents : List Nat}

theorem Hosts.tellAll (hosts : Hosts session engine others) (checkpoints : List Checkpoint) :
    Hosts session (engine.tellAll checkpoints) others := by
  induction checkpoints generalizing engine with
  | nil => exact hosts
  | cons checkpoint rest ih => exact ih ⟨hosts.registered, hosts.rest⟩

theorem told_of_notices (h : now.notices = engine.notices) : Told session engine now [] :=
  ⟨[], by simp [h], rfl, by simp⟩

theorem Told.tell (told : Told session engine now percents) (hosts : Hosts session now others)
    (checkpoint : Checkpoint) :
    Told session engine (now.tell checkpoint) (percents ++ [checkpoint.percent]) := by
  obtain ⟨notices, joined, rfl, during⟩ := told
  refine ⟨notices ++ [⟨checkpoint, now.sessions⟩], ?_, by simp, ?_⟩
  · rw [Engine.tell, joined, List.append_assoc]
  · exact List.forall_mem_append.mpr ⟨during, by simpa using hosts.registered⟩

theorem Told.tellAll (told : Told session engine now percents) (hosts : Hosts session now others)
    (checkpoints : List Checkpoint) :
    Told session engine (now.tellAll checkpoints) (percents ++ checkpoints.map (·.percent)) := by
  induction checkpoints generalizing now percents with
  | nil => simpa [Engine.tellAll] using told
  | cons checkpoint rest ih =>
    have next := ih (told.tell hosts checkpoint) (hosts.tellAll [checkpoint])
    rwa [List.append_assoc] at next

theorem Told.congr {after : Engine} (told : Told session engine now percents)
    (h : after.notices = now.notices) : Told session engine after percents := by
  obtain ⟨notices, joined, spoken⟩ := told
  exact ⟨notices, h.trans joined, spoken⟩

end Told

namespace Generation

variable {α β : Type} {x : Generation α} {f : α → Generation β} {engine after : Engine} {a : α}
  {cause : GenerationError} {config : Config} {request : Request} {findings : Findings}
  {fault : DesignError}

/-! ## Parts of a generation -/

theorem run_bind_ok (h : x.run engine = (.ok a, after)) :
    (x >>= f).run engine = (f a).run after := by
  rw [ExceptT.run_bind]
  change StateT.bind x.run _ engine = _
  rw [StateT.bind, h]
  rfl

theorem run_bind_error (h : x.run engine = (.error cause, after)) :
    (x >>= f).run engine = (.error cause, after) := by
  rw [ExceptT.run_bind]
  change StateT.bind x.run _ engine = _
  rw [StateT.bind, h]
  rfl

theorem run_attempt_ok {ε : Type} {cause : ε → GenerationError} {result : Except ε α}
    (h : result = .ok a) : (attempt cause result).run engine = (.ok a, engine) := by
  rw [h]
  rfl

theorem run_attempt_error {ε : Type} {cause : ε → GenerationError} {result : Except ε α} {fault : ε}
    (h : result = .error fault) :
    (attempt cause result).run engine = (.error (cause fault), engine) := by
  rw [h]
  rfl

theorem run_report (observer : Observer) (checkpoint : Checkpoint) (engine : Engine) :
    (report observer checkpoint).run engine = (.ok (), engine.tell checkpoint) := by
  have read : (getThe Engine : Generation Engine).run engine = (.ok engine, engine) := rfl
  have written : (set (engine.tell checkpoint) : Generation Unit).run engine =
      (.ok (), engine.tell checkpoint) := rfl
  unfold report
  rw [run_bind_ok read]
  refine (run_bind_ok written).trans ?_
  split <;> rfl

theorem report_observer (observer other : Observer) : report observer = report other := by
  funext checkpoint
  refine ExceptT.ext (funext fun engine => ?_)
  exact (run_report observer checkpoint engine).trans (run_report other checkpoint engine).symm

/-! ## The inputs of a component -/

theorem isBlankText_nameFor (config : Config) (source : DesignFile) :
    isBlankText (nameFor config source) = false :=
  Component.isBlankText_nameOfString _

theorem isBlankText_markupOf (request : Request) (block : Text.PrivateBlock) :
    isBlankText ((markupOf request).write block) = false := by
  rw [Text.isBlankText_write _ block .first]
  unfold markupOf
  split
  · split
    · rw [Text.write_ofString]
      exact Component.isBlankText_drawing _
    · rename_i h
      exact eq_false_of_ne_true h
  · rw [Text.write_ofString]
    exact Component.isBlankText_drawing _

theorem markup_of_findingsOf (h : findingsOf request config = .ok findings) :
    findings.markup = (markupOf request).write .first ∧
      findings.otherMarkup = (markupOf request).write .second := by
  unfold findingsOf at h
  cases read : DesignFile.read request.design none with
  | error fault => rw [read] at h; cases h
  | ok source =>
    cases palette : paletteOf source with
    | error fault => simp [read, palette, bind, Except.bind] at h
    | ok colors =>
      simp only [read, palette, bind, Except.bind, pure, Except.pure, Except.ok.injEq] at h
      rw [← h]
      exact ⟨rfl, rfl⟩

/-- The files that a component of some findings has. -/
def artifactsFor (config : Config) (findings : Findings) : Artifacts :=
  Component.artifacts findings.markup (Component.nameOfString (nameFor config findings.source))
    config (if findings.source.hasMetadata then some findings.source else none)
      findings.palette none

theorem artifactsOf_eq_ok (filled : isBlankText findings.markup = false) :
    artifactsOf config findings (nameFor config findings.source) =
      .ok (artifactsFor config findings) := by
  simp [artifactsOf, Component.synthesize, artifactsFor, isBlankText_nameFor, filled]

def otherArtifactsFor (config : Config) (findings : Findings) : Artifacts :=
  artifactsFor config { findings with markup := findings.otherMarkup }

theorem artifactsOf_findings (h : findingsOf request config = .ok findings) :
    artifactsOf config findings (nameFor config findings.source) =
      .ok (artifactsFor config findings) := by
  apply artifactsOf_eq_ok
  rw [(markup_of_findingsOf h).1]
  exact isBlankText_markupOf request .first

theorem otherArtifactsOf_findings (h : findingsOf request config = .ok findings) :
    otherArtifactsOf config findings (nameFor config findings.source) =
      .ok (otherArtifactsFor config findings) := by
  apply artifactsOf_eq_ok
  rw [(markup_of_findingsOf h).2]
  exact isBlankText_markupOf request .second

/-! ## Encoding -/

/-- The encoding of the files of a component of some findings. -/
def encodingOf (config : Config) (findings : Findings) : Except Text.SurrogateFault Unit :=
  encode (artifactsFor config findings).files (otherArtifactsFor config findings).files

theorem encode_self (files : List SourceFile) : encode files files = .ok () := by
  have whole : (List.zipWith (fun file other : SourceFile =>
      Text.Points.ofWritings file.content other.content) files files).findSome?
        Text.surrogateFault? = none := by
    rw [List.zipWith_self, List.findSome?_eq_none_iff]
    intro content hc
    obtain ⟨file, -, rfl⟩ := List.mem_map.mp hc
    rw [Text.ofWritings_self, Text.surrogateFault?_ofString]
  rw [encode, whole]

theorem encode_cons_eq_error {file other : SourceFile} {fault : Text.SurrogateFault}
    (h : Text.surrogateFault? (.ofWritings file.content other.content) = some fault)
    (files others : List SourceFile) :
    encode (file :: files) (other :: others) = .error fault := by
  rw [encode, List.zipWith_cons_cons, List.findSome?_cons_of_isSome (by rw [h]; rfl), h]

def Request.HoldsSurrogate (request : Request) : Prop :=
  ∃ markup, request.markup = some markup ∧ Text.Points.HoldsSurrogate markup

theorem not_holdsSurrogate_of_design (design : Json) :
    ¬ Request.HoldsSurrogate ⟨design, none⟩ := by
  rintro ⟨markup, given, -⟩
  cases given

/-- Only a surrogate that is given in the markup can keep a file from being encoded. -/
theorem encodingOf_eq_ok (h : findingsOf request config = .ok findings)
    (plain : ¬ request.HoldsSurrogate) : encodingOf config findings = .ok () := by
  have written : ∃ text, markupOf request = Text.Points.ofString text := by
    unfold markupOf
    split
    · rename_i markup given
      split
      · exact ⟨_, rfl⟩
      · exact ⟨_, Text.eq_ofString_of_not_holdsSurrogate fun holds => plain ⟨markup, given, holds⟩⟩
    · exact ⟨_, rfl⟩
  obtain ⟨text, markup⟩ := written
  have same : findings.otherMarkup = findings.markup := by
    rw [(markup_of_findingsOf h).1, (markup_of_findingsOf h).2, markup, Text.write_ofString,
      Text.write_ofString]
  rw [encodingOf, otherArtifactsFor, same]
  exact encode_self _

/-! ## The whole course -/

/-- What a generation comes to: every account of it is taken from the same files. -/
structure Completes (session : String) (config : Config) (findings : Findings)
    (results : List ValidationResult) (generated : Generated) : Prop where
  session : generated.session = session
  config : generated.config = config
  artifacts : generated.artifacts = artifactsFor generated.config findings
  files : generated.files = generated.artifacts.placed
  places : generated.places = .ofArtifacts generated.artifacts
  validation : generated.validation = resultsByName generated.files results
  logs : generated.logs = buildLogs generated.validation
  status : generated.status = .ofLogs generated.logs
  quality : generated.quality =
    qualityOf findings generated.scores generated.files generated.validation

variable {compiler : Compiler} {observer : Observer} {session : String}
  {happenings : List Happening}

theorem run_prepare_error (h : findingsOf request config = .error fault) :
    (prepare observer config request).run engine =
      (.error (.design fault), engine.tellAll [.analyzing]) := by
  unfold prepare
  rw [run_bind_ok (run_report ..)]
  exact run_bind_error (run_attempt_error h)

/-- The course of a generation up to the encoding of its files. -/
theorem run_prepare (h : findingsOf request config = .ok findings) :
    (prepare observer config request).run engine =
      (do
        attempt .encoding (encodingOf config findings)
        report observer .validating
        pure ⟨config, findings, artifactsFor config findings⟩ : Generation Draft).run
          (engine.tellAll [.analyzing, .planning, .generating]) := by
  have made := artifactsOf_findings h
  have others := otherArtifactsOf_findings h
  unfold prepare
  rw [run_bind_ok (run_report ..), run_bind_ok (run_attempt_ok h), run_bind_ok (run_report ..),
    run_bind_ok (run_report ..), run_bind_ok (run_attempt_ok made),
    run_bind_ok (run_attempt_ok others)]
  rfl

theorem run_prepare_unencoded (h : findingsOf request config = .ok findings)
    {fault : Text.SurrogateFault} (unencoded : encodingOf config findings = .error fault) :
    (prepare observer config request).run engine =
      (.error (.encoding fault), engine.tellAll [.analyzing, .planning, .generating]) := by
  rw [run_prepare h]
  exact run_bind_error (run_attempt_error unencoded)

theorem run_prepare_ok (h : findingsOf request config = .ok findings)
    (encoded : encodingOf config findings = .ok ()) :
    (prepare observer config request).run engine =
      (.ok ⟨config, findings, artifactsFor config findings⟩,
        engine.tellAll [.analyzing, .planning, .generating, .validating]) := by
  rw [run_prepare h, run_bind_ok (run_attempt_ok encoded), run_bind_ok (run_report ..)]
  rfl

theorem run_validated (framework : Framework) (files : List PlacedFile) :
    (validated compiler framework happenings files).run engine =
      (.ok (files.map (validateFile compiler framework)), engine.afterAll happenings) := by
  rw [← Waiting.settled_run engine happenings]
  exact congrArg (Prod.mk _) (Waiting.run_engine (Waiting.start files engine) happenings)

theorem run_complete (observer : Observer) (session : String) (draft : Draft)
    (h : draft.artifacts = artifactsFor draft.config draft.findings)
    (results : List ValidationResult) :
    ∃ generated, Completes session draft.config draft.findings results generated ∧
      ∀ engine, (complete observer session draft results).run engine =
        (.ok generated, engine.tellAll [.assessing, .finalizing, .complete]) := by
  unfold complete
  simp only [run_bind_ok (run_report ..)]
  refine ⟨_, ?_, fun _ => rfl⟩
  constructor
  case artifacts => exact h
  all_goals dsimp only

theorem run_body_error (h : findingsOf request config = .error fault) :
    (body compiler observer session happenings config request).run engine =
      (.error (.design fault), engine.tellAll [.analyzing]) :=
  run_bind_error (run_prepare_error h)

theorem run_body_unencoded (h : findingsOf request config = .ok findings)
    {fault : Text.SurrogateFault} (unencoded : encodingOf config findings = .error fault) :
    (body compiler observer session happenings config request).run engine =
      (.error (.encoding fault), engine.tellAll [.analyzing, .planning, .generating]) :=
  run_bind_error (run_prepare_unencoded h unencoded)

theorem run_body_ok (compiler : Compiler) (observer : Observer) (session : String)
    (h : findingsOf request config = .ok findings)
    (encoded : encodingOf config findings = .ok ()) :
    ∃ generated,
      Completes session config findings
        ((artifactsFor config findings).placed.map (validateFile compiler config.framework))
        generated ∧
      ∀ happenings engine,
        (body compiler observer session happenings config request).run engine =
          (.ok generated,
            ((engine.tellAll [.analyzing, .planning, .generating, .validating]).afterAll
              happenings).tellAll [.assessing, .finalizing, .complete]) := by
  obtain ⟨generated, completes, run⟩ := run_complete observer session
    ⟨config, findings, artifactsFor config findings⟩ rfl
    ((artifactsFor config findings).placed.map (validateFile compiler config.framework))
  refine ⟨generated, completes, fun happenings engine => ?_⟩
  unfold body
  rw [run_bind_ok (run_prepare_ok h encoded), run_bind_ok (run_validated ..)]
  exact run _

theorem body_observer (observer other : Observer) :
    body compiler observer session happenings config request =
      body compiler other session happenings config request := by
  simp only [body, prepare, complete, report_observer observer other]

end Generation

open Generation

variable {compiler : Compiler} {observer : Observer} {session : String}
  {happenings : List Happening} {config : Config} {request : Request} {engine : Engine}

/-- A generation that stops behind some checkpoints leaves no session behind. -/
theorem generateAmid_of_error {cause : GenerationError} {checkpoints : List Checkpoint}
    (fresh : session ∉ engine.sessions)
    (stops : (body compiler observer session happenings config request).run
      (engine.register session) =
        (.error cause, (engine.register session).tellAll checkpoints)) :
    ∃ after,
      engine.generateAmid compiler observer session happenings config request =
        (.error cause, after) ∧
      Told session engine after (checkpoints.map (·.percent)) ∧
      after.sessions = engine.sessions := by
  have hosts := hosts_register fresh
  refine ⟨_, by rw [Engine.generateAmid, stops], ?_, (hosts.tellAll checkpoints).sessions_release⟩
  exact ((told_of_notices notices_register).tellAll hosts checkpoints).congr rfl

/-- A generation whose design cannot be read stops there. -/
theorem generateAmid_error (compiler : Compiler) (observer : Observer)
    (happenings : List Happening) {fault : DesignError} (fresh : session ∉ engine.sessions)
    (h : findingsOf request config = .error fault) :
    ∃ after,
      engine.generateAmid compiler observer session happenings config request =
        (.error (.design fault), after) ∧
      Told session engine after [10] ∧ after.sessions = engine.sessions :=
  generateAmid_of_error fresh (run_body_error h)

/-- A generation that cannot encode a file stops there. -/
theorem generateAmid_unencoded (compiler : Compiler) (observer : Observer)
    (happenings : List Happening) {findings : Findings} {fault : Text.SurrogateFault}
    (fresh : session ∉ engine.sessions) (h : findingsOf request config = .ok findings)
    (unencoded : encodingOf config findings = .error fault) :
    ∃ after,
      engine.generateAmid compiler observer session happenings config request =
        (.error (.encoding fault), after) ∧
      Told session engine after [10, 30, 50] ∧ after.sessions = engine.sessions :=
  generateAmid_of_error fresh (run_body_unencoded h unencoded)

/-- A generation whose design can be read passes all checkpoints and leaves no session behind. -/
theorem generateAmid_ok (compiler : Compiler) (observer : Observer) {findings : Findings}
    (fresh : session ∉ engine.sessions)
    (apart : ∀ happening ∈ happenings, happening.session? ≠ some session)
    (h : findingsOf request config = .ok findings)
    (encoded : encodingOf config findings = .ok ()) :
    ∃ generated after,
      engine.generateAmid compiler observer session happenings config request =
        (.ok generated, after) ∧
      Completes session config findings
        ((artifactsFor config findings).placed.map (validateFile compiler config.framework))
        generated ∧
      Told session engine after [10, 30, 50, 70, 85, 95, 100] ∧
      session ∉ after.sessions ∧ after.sessions = (engine.afterAll happenings).sessions := by
  obtain ⟨generated, completes, run⟩ := run_body_ok compiler observer session h encoded
  have before := (hosts_register fresh).tellAll [.analyzing, .planning, .generating, .validating]
  have waited := before.afterAll apart
  have told := (told_of_notices notices_register).tellAll (hosts_register fresh)
    [.analyzing, .planning, .generating, .validating]
  refine ⟨generated, _, by rw [Engine.generateAmid, run happenings], completes, ?told, ?gone,
    (waited.tellAll _).sessions_release⟩
  case told =>
    exact ((told.congr notices_afterAll).tellAll waited [.assessing, .finalizing, .complete]).congr
      rfl
  case gone => simp [Engine.release]

/-- A generation ends in one of four ways: its options are refused before it starts, its design
cannot be read, a file cannot be encoded for a surrogate that was given in the markup, or it has a
result. In each of them its session is gone, the other sessions are what the other generations have
made of them, and another observer would have changed nothing. -/
theorem generation_ends (compiler : Compiler) (observer : Observer) (session : String)
    (happenings : List Happening) (options : Json) (request : Request) (engine : Engine)
    (fresh : session ∉ engine.sessions)
    (apart : ∀ happening ∈ happenings, happening.session? ≠ some session) :
    ∃ outcome after,
      (∀ observer', engine.generateWithAmid compiler observer' session happenings options request =
        (outcome, after)) ∧
      session ∉ after.sessions ∧
      ((∃ problems, Config.read options = .error problems ∧
          outcome = .error (.options problems) ∧ after = engine) ∨
        (∃ config fault, Config.read options = .ok config ∧
          findingsOf request config = .error fault ∧ outcome = .error (.design fault) ∧
          Told session engine after [10] ∧ after.sessions = engine.sessions) ∨
        (∃ config findings fault, Config.read options = .ok config ∧
          findingsOf request config = .ok findings ∧ encodingOf config findings = .error fault ∧
          request.HoldsSurrogate ∧ outcome = .error (.encoding fault) ∧
          Told session engine after [10, 30, 50] ∧ after.sessions = engine.sessions) ∨
        (∃ config findings generated, Config.read options = .ok config ∧
          findingsOf request config = .ok findings ∧ encodingOf config findings = .ok () ∧
          outcome = .ok generated ∧ Told session engine after [10, 30, 50, 70, 85, 95, 100] ∧
          after.sessions = (engine.afterAll happenings).sessions)) := by
  cases read : Config.read options with
  | error problems =>
    have refused (observer' : Observer) :
        engine.generateWithAmid compiler observer' session happenings options request =
          (.error (.options problems), engine) := by
      simp only [Engine.generateWithAmid, read]
    exact ⟨_, _, refused, fresh, .inl ⟨problems, rfl, rfl, rfl⟩⟩
  | ok config =>
    have started (observer' : Observer) :
        engine.generateWithAmid compiler observer' session happenings options request =
          engine.generateAmid compiler observer session happenings config request := by
      simp only [Engine.generateWithAmid, read, Engine.generateAmid,
        body_observer observer' observer]
    cases found : findingsOf request config with
    | error fault =>
      obtain ⟨after, ends, told, left⟩ :=
        generateAmid_error compiler observer happenings fresh found
      exact ⟨_, after, fun other => (started other).trans ends, left ▸ fresh,
        .inr (.inl ⟨config, fault, rfl, found, rfl, told, left⟩)⟩
    | ok findings =>
      cases encoding : encodingOf config findings with
      | error fault =>
        have holds : request.HoldsSurrogate := by
          by_contra plain
          rw [encodingOf_eq_ok found plain] at encoding
          cases encoding
        obtain ⟨after, ends, told, left⟩ :=
          generateAmid_unencoded compiler observer happenings fresh found encoding
        exact ⟨_, after, fun other => (started other).trans ends, left ▸ fresh,
          .inr
            (.inr (.inl ⟨config, findings, fault, rfl, found, encoding, holds, rfl, told, left⟩))⟩
      | ok =>
        obtain ⟨generated, after, ends, -, told, gone, left⟩ :=
          generateAmid_ok compiler observer fresh apart found encoding
        exact ⟨_, after, fun other => (started other).trans ends, gone,
          .inr (.inr (.inr ⟨config, findings, generated, rfl, found, encoding, rfl, told, left⟩))⟩

theorem generation_ends_beside_others :
    ∃ outcome after,
      (∀ observer', Engine.generateWithAmid (fun _ _ => .error "missing") observer' "a"
        [.registered "c", .validated 1, .released "b"] .null ⟨.null, none⟩ ⟨["b"], []⟩ =
          (outcome, after)) ∧ after.sessions = ["c"] := by
  obtain ⟨outcome, after, ends, -, course⟩ :=
    generation_ends (fun _ _ => .error "missing") (fun _ => .error "gone") "a"
      [.registered "c", .validated 1, .released "b"] .null ⟨.null, none⟩ ⟨["b"], []⟩
      (by decide) (by decide)
  refine ⟨outcome, after, ends, ?_⟩
  rcases course with ⟨problems, refused, -⟩ | ⟨config, fault, read, failed, -⟩ |
    ⟨config, findings, fault, -, -, -, ⟨markup, given, -⟩, -⟩ | course
  · cases refused
  · cases read
    cases failed
  · cases given
  · obtain ⟨-, -, -, -, -, -, -, -, left⟩ := course
    exact left

/-- A root with a surrogate inside. -/
def loneMarkup (index : Fin 2048) : Text.Points :=
  Text.Points.ofString "<svg>" ++ [.surrogate index] ++ Text.Points.ofString "</svg>"

/-- The lone surrogate is all that the root of the drawing holds. -/
theorem source_loneMarkup : ∃ before after, ∀ block : Text.PrivateBlock,
    Component.source (Component.blueprint ((loneMarkup 0).write block) "GeneratedComponent"
      {} none) =
      before ++ String.ofList [(Text.Point.surrogate 0).write block] ++ after := by
  let bare : Component.Blueprint :=
    { Component.blueprint "" "GeneratedComponent" {} none with root := ⟨[], []⟩ }
  obtain ⟨before, after, around⟩ := Component.React.source_around bare
  refine ⟨before ++ String.ofList (List.replicate 6 ' '), after, fun block => ?_⟩
  let held := (Text.Point.surrogate 0).write block
  have root : Markup.splitRoot (Markup.normalForm ((loneMarkup 0).write block).toList) =
      ⟨[], [held]⟩ := by
    cases block <;> decide +kernel
  have line : Markup.layout 6 Markup.defaultStep [held] = [List.replicate 6 ' ' ++ [held]] := by
    cases block <;> decide +kernel
  have whole := around [held] [String.ofList (List.replicate 6 ' ' ++ [held])]
    (congrArg (List.map String.ofList) line) (List.cons_ne_nil _ _)
  rw [Component.blueprint, root]
  refine Eq.trans whole ?_
  rw [Text.joinLines, String.intercalate_singleton, String.ofList_append]
  simp only [String.append_assoc, held]

/-- The surrogate stands in the source of the component, which therefore cannot be encoded. -/
theorem encodingOf_loneMarkup {findings : Findings}
    (found : findingsOf ⟨.object [], some (loneMarkup 0)⟩ {} = .ok findings) :
    ∃ position, encodingOf {} findings = .error ⟨position, [.surrogate 0]⟩ := by
  obtain ⟨before, after, source⟩ := source_loneMarkup
  have named : Component.nameOfString (nameFor {} findings.source) = "GeneratedComponent" := by
    cases found
    decide +kernel
  have unnamed : findings.source.hasMetadata = false := by
    cases found
    rfl
  have content (made : Findings) {block : Text.PrivateBlock}
      (same : made.source = findings.source) (held : made.markup = (loneMarkup 0).write block) :
      (artifactsFor {} made).component.content =
        before ++ String.ofList [(Text.Point.surrogate 0).write block] ++ after := by
    rw [← source block, artifactsFor, held, same, named, unnamed]
    rfl
  have given : markupOf ⟨.object [], some (loneMarkup 0)⟩ = loneMarkup 0 := by
    have filled : ¬ isBlankText ((loneMarkup 0).write .first) := by decide +kernel
    simp only [markupOf, filled, Bool.false_eq_true, ↓reduceIte]
  obtain ⟨first, second⟩ := markup_of_findingsOf found
  rw [given] at first second
  have apart : Text.Point.ofWritings ((Text.Point.surrogate 0).write .first)
      ((Text.Point.surrogate 0).write .second) = .surrogate 0 := by decide +kernel
  have fault : Text.surrogateFault? (.ofWritings (artifactsFor {} findings).component.content
      (otherArtifactsFor {} findings).component.content) =
        some ⟨before.length, [.surrogate 0]⟩ := by
    rw [otherArtifactsFor, content findings rfl first,
      content { findings with markup := findings.otherMarkup } rfl second,
      Text.ofWritings_between, apart, Text.surrogateFault?_between]
  refine ⟨before.length, ?_⟩
  rw [encodingOf, otherArtifactsFor, artifactsFor, artifactsFor, Component.files_artifacts,
    Component.files_artifacts]
  exact encode_cons_eq_error fault _ _

/-- A lone surrogate in the markup stops the generation behind the third checkpoint. -/
theorem generation_stopped_by_surrogate :
    Config.read .null = .ok {} ∧
      ∃ position after, Engine.generateWithAmid (fun _ _ => .ok []) (fun _ => .ok ()) "a" [] .null
        ⟨.object [], some (loneMarkup 0)⟩ {} =
          (.error (.encoding ⟨position, [.surrogate 0]⟩), after) ∧
      after.notices.map (·.checkpoint.percent) = [10, 30, 50] ∧ after.sessions = [] := by
  have fresh : "a" ∉ ({} : Engine).sessions := by decide
  obtain ⟨findings, found⟩ :
      ∃ findings, findingsOf ⟨.object [], some (loneMarkup 0)⟩ {} = .ok findings := ⟨_, rfl⟩
  obtain ⟨position, unencoded⟩ := encodingOf_loneMarkup found
  obtain ⟨after, ends, ⟨notices, told, percents, -⟩, left⟩ :=
    generateAmid_unencoded (fun _ _ => .ok []) (fun _ => .ok ()) [] fresh found unencoded
  refine ⟨rfl, position, after, ends, ?_, left⟩
  rw [told]
  exact percents

end Handoff
