import Handoff.Proofs.Entries
import Handoff.Proofs.Service.Answer
import Handoff.Proofs.Service.Lookup
import Handoff.Proofs.Text.Lines

/-! # Answers on a missing node

That a node is missing is told in words of its own, behind the mark of all failures. The failures on
the way to a component begin with other letters, unless a reply brings such a failure with it, and
what is generated does not begin like a failure. So a tool that finds the node never tells that it
is missing.
-/

namespace Handoff

open Service

variable {text front rest : String} {c : Char}

/-! ## First letters -/

def BeginsWith (c : Char) (text : String) : Prop := text.toList.head? = some c

theorem beginsWith_ofList (c : Char) (rest : List Char) :
    BeginsWith c (String.ofList (c :: rest)) := by
  rw [BeginsWith, String.toList_ofList]
  rfl

theorem BeginsWith.append (h : BeginsWith c front) (rest : String) :
    BeginsWith c (front ++ rest) := by
  rw [BeginsWith, String.toList_append, List.head?_append, h]
  rfl

theorem BeginsWith.unique {d : Char} (h : BeginsWith c text) (h' : BeginsWith d text) : c = d :=
  Option.some.inj (h.symm.trans h')

/-! ## Answers -/

def TellsMissing (text : String) : Prop := "Error: Node '".toList <+: text.toList

theorem beginsWith_of_tellsMissing (h : TellsMissing text) : BeginsWith 'E' text := by
  obtain ⟨rest, same⟩ := h
  rw [BeginsWith, ← same]
  rfl

/-- Behind the mark of failures the answer goes on with the letter of a node. -/
theorem tellsMissing_error (h : TellsMissing ("Error: " ++ text)) : BeginsWith 'N' text := by
  obtain ⟨rest, same⟩ := h
  have mark : "Error: Node '".toList = "Error: ".toList ++ "Node '".toList := by decide
  rw [mark, String.toList_append, List.append_assoc] at same
  rw [BeginsWith, ← List.append_cancel_left same]
  rfl

theorem not_tellsMissing_error (h : BeginsWith c text) (other : c ≠ 'N') :
    ¬ TellsMissing ("Error: " ++ text) :=
  fun told => other (h.unique (tellsMissing_error told))

theorem not_tellsMissing_ofList (other : c ≠ 'N') (rest : List Char) :
    ¬ TellsMissing (String.ofList ("Error: ".toList ++ c :: rest)) := by
  rw [String.ofList_append, String.ofList_toList]
  exact not_tellsMissing_error (beginsWith_ofList c rest) other

/-! ## Failures -/

namespace Failure

variable {failure : Failure} {kind : FailureKind} {message : String}

/-- If an input is blamed for the failure, then in words with another first letter than those on a
missing node. -/
def SaysOther (failure : Failure) : Prop :=
  failure.kind.blamesInput = true → ¬ BeginsWith 'N' failure.text

theorem saysOther_of_kind (blameless : failure.kind.blamesInput = false) : failure.SaysOther :=
  fun blamed =>
    absurd blamed (ne_true_of_eq_false blameless)

/-- A message is shown as it is, unless it is the name of a key. -/
theorem text_of (blames : kind.blamesInput = true) : (of kind message).text = message := by
  cases kind with
  | missingKey => cases blames
  | _ => rfl

theorem saysOther_of (begins : BeginsWith c message) (other : c ≠ 'N') :
    (of kind message).SaysOther := by
  intro blames found
  have shown : (of kind message).text = message := text_of blames
  rw [shown] at found
  exact other (begins.unique found)

theorem not_tellsMissing_statusAnswer (status : Int) : ¬ TellsMissing (statusAnswer status) := by
  have begins : BeginsWith 'F' "Figma API returned status " := beginsWith_ofList _ _
  have mark : "Error: Figma API returned status " = "Error: " ++ "Figma API returned status " := by
    decide
  unfold statusAnswer
  split_ifs
  · exact not_tellsMissing_ofList (by decide : 'I' ≠ 'N') _
  · exact not_tellsMissing_ofList (by decide : 'A' ≠ 'N') _
  · exact not_tellsMissing_ofList (by decide : 'F' ≠ 'N') _
  · exact not_tellsMissing_ofList (by decide : 'R' ≠ 'N') _
  · rw [mark, String.append_assoc]
    exact not_tellsMissing_error (begins.append _) (by decide)

theorem beginsWith_name (blameless : kind.blamesInput = false) :
    ∃ c, c ≠ 'N' ∧ BeginsWith c kind.name := by
  cases kind with
  | timedOut | badType => exact ⟨'T', by decide, beginsWith_ofList _ _⟩
  | missingAttribute => exact ⟨'A', by decide, beginsWith_ofList _ _⟩
  | overflow => exact ⟨'O', by decide, beginsWith_ofList _ _⟩
  | badState | tooDeep | readTimeout | readError => exact ⟨'R', by decide, beginsWith_ofList _ _⟩
  | missingKey => exact ⟨'K', by decide, beginsWith_ofList _ _⟩
  | badAddress => exact ⟨'I', by decide, beginsWith_ofList _ _⟩
  | compiler | connectTimeout | connectError => exact ⟨'C', by decide, beginsWith_ofList _ _⟩
  | httpStatus status => exact ⟨'H', by decide, beginsWith_ofList _ _⟩
  | badValue | badJson | badOptions | missingInput | unsupportedLanguage | nodeExtraction =>
    cases blameless

theorem SaysOther.not_tellsMissing (h : failure.SaysOther) : ¬ TellsMissing failure.answer := by
  unfold answer
  split
  case h_1 status reading => exact not_tellsMissing_statusAnswer status
  case h_2 kind reading =>
    split_ifs with late blamed
    · exact not_tellsMissing_ofList (by decide : 'R' ≠ 'N') _
    · exact fun told => h blamed (tellsMissing_error told)
    · obtain ⟨c, other, begins⟩ := beginsWith_name (eq_false_of_ne_true blamed)
      simp only [String.append_assoc]
      exact not_tellsMissing_error (begins.append _) other

end Failure

/-! ## Results that may fail -/

namespace Service

variable {α β ε : Type} {P : α → Prop} {Q : β → Prop} {exchange : Exchange}

/-- If there is no result, the failure does not say that a node is missing. -/
def FailsOtherwise (result : Except Failure α) : Prop :=
  ∀ failure, result = .error failure → failure.SaysOther

theorem failsOtherwise_ok (a : α) : FailsOtherwise (.ok a : Except Failure α) :=
  fun _ failed => by cases failed

theorem failsOtherwise_error {failure : Failure} (h : failure.SaysOther) :
    FailsOtherwise (.error failure : Except Failure α) := fun _ failed => by
  cases failed
  exact h

theorem failsOtherwise_bind {result : Except Failure α} {next : α → Except Failure β}
    (h : FailsOtherwise result)
    (behind : ∀ a, FailsOtherwise (next a)) : FailsOtherwise (result >>= next) := by
  cases result with
  | error failure => exact failsOtherwise_error (h failure rfl)
  | ok a => exact behind a

theorem failsOtherwise_mapError {result : Except ε α} {f : ε → Failure}
    (h : ∀ fault, (f fault).SaysOther) :
    FailsOtherwise (result.mapError f) := by
  cases result with
  | error fault => exact failsOtherwise_error (h fault)
  | ok a => exact failsOtherwise_ok a

theorem failsOtherwise_choose (credentials : Credentials) : FailsOtherwise credentials.choose := by
  have begins : BeginsWith 'F' Credentials.missing := (beginsWith_ofList _ _).append _
  unfold Credentials.choose
  dsimp only
  split
  · exact failsOtherwise_ok _
  · exact failsOtherwise_error (Failure.saysOther_of begins (by decide))

theorem failsOtherwise_requireAscii (text : List Char) :
    FailsOtherwise (Call.requireAscii text) := by
  unfold Call.requireAscii
  split
  · have begins : BeginsWith '\'' "'ascii' codec can't encode " := beginsWith_ofList _ _
    exact failsOtherwise_error
      (Failure.saysOther_of ((((begins.append _).append _).append _).append _) (by decide))
  · exact failsOtherwise_ok ()

theorem failsOtherwise_prepare (address : Except AddressFault Address)
    (fields : List (String × String))
    (token : Option String) : FailsOtherwise (Call.prepare address fields token) := by
  have addressed {result : Except AddressFault Address} :
      FailsOtherwise (result.mapError Call.addressFailure) :=
    failsOtherwise_mapError fun _ => Failure.saysOther_of_kind rfl
  unfold Call.prepare
  refine failsOtherwise_bind addressed fun address => ?_
  refine failsOtherwise_bind (failsOtherwise_requireAscii _) fun _ => ?_
  dsimp only
  split
  · exact failsOtherwise_bind (failsOtherwise_ok _) fun _ =>
      failsOtherwise_bind (failsOtherwise_requireAscii _) fun _ => failsOtherwise_ok _
  · exact failsOtherwise_bind addressed fun _ =>
      failsOtherwise_bind (failsOtherwise_requireAscii _) fun _ => failsOtherwise_ok _

theorem saysOther_readFailure (text : List Char) (error : Json.ReadError) :
    (Body.readFailure text error).SaysOther := by
  cases error with
  | malformed fault left =>
    have words : ∃ c, c ≠ 'N' ∧ BeginsWith c fault.words := by
      cases fault with
      | value | propertyName | colon | comma | extraData =>
        exact ⟨'E', by decide, beginsWith_ofList _ _⟩
      | unterminated => exact ⟨'U', by decide, beginsWith_ofList _ _⟩
      | controlCharacter | escape | unicodeEscape => exact ⟨'I', by decide, beginsWith_ofList _ _⟩
    obtain ⟨c, other, begins⟩ := words
    exact Failure.saysOther_of ((begins.append _).append _) other
  | numberTooLong fault =>
    have begins : BeginsWith 'E' "Exceeds the limit (" := beginsWith_ofList _ _
    exact Failure.saysOther_of (((begins.append _).append _).append _) (by decide)
  | tooDeep isList => exact Failure.saysOther_of_kind rfl

theorem failsOtherwise_asJson (body : Body) : FailsOtherwise body.asJson := by
  cases body with
  | json value => exact failsOtherwise_ok value
  | text content =>
    have begins : BeginsWith '\'' "'" := beginsWith_ofList _ _
    have quoted (fault : Text.DecodingFault) : BeginsWith '\'' fault.message :=
      ((((((begins.append _).append _).append _).append _).append _).append _).append _
    refine failsOtherwise_bind (failsOtherwise_mapError fun fault => ?_) fun text => ?_
    · exact Failure.saysOther_of (quoted fault) (by decide)
    · exact failsOtherwise_mapError (saysOther_readFailure text)

/-! ## What a tool's work says -/

/-- No reply that is left is a failure for which an input is blamed. A connection that fails blames
none. -/
def Exchange.IsOrdinary (exchange : Exchange) : Prop :=
  ∀ failure, Reply.failed failure ∈ exchange.replies → failure.kind.blamesInput = false

/-- What is yielded has a property, and a failure does not say that a node is missing. -/
def Outcome (P : α → Prop) : Except Failure α × Exchange → Prop
  | (.ok a, after) => P a ∧ after.IsOrdinary
  | (.error failure, _) => failure.SaysOther

/-- A part of a tool's work has such an outcome, as long as the replies are ordinary. -/
def Client.SaysOther (work : Client α) (P : α → Prop) : Prop :=
  ∀ exchange, exchange.IsOrdinary → Outcome P (work.run exchange)

theorem saysOther_pure {a : α} (h : P a) : (pure a : Client α).SaysOther P := fun _ ordinary =>
  ⟨h, ordinary⟩

theorem saysOther_ofExcept {result : Except Failure α} (ok : ∀ a, result = .ok a → P a)
    (fails : FailsOtherwise result) : (Client.ofExcept result).SaysOther P := by
  intro exchange ordinary
  cases result with
  | ok a => exact ⟨ok a rfl, ordinary⟩
  | error failure => exact fails failure rfl

theorem saysOther_bind {work : Client α} {next : α → Client β} (h : work.SaysOther P)
    (behind : ∀ a, P a → (next a).SaysOther Q) : (work >>= next).SaysOther Q := by
  intro exchange ordinary
  have first := h exchange ordinary
  rcases reached : work.run exchange with ⟨failure | a, between⟩
  · rw [reached] at first
    rw [Client.run_bind_error reached]
    exact first
  · rw [reached] at first
    rw [Client.run_bind_ok reached]
    exact behind a first.1 between first.2

theorem not_tellsMissing_answered {work : Client String}
    (h : work.SaysOther fun text => ¬ TellsMissing text)
    (ordinary : exchange.IsOrdinary) : ¬ TellsMissing (answered work exchange).1 := by
  have ran := h exchange ordinary
  unfold answered
  generalize work.run exchange = reached at ran ⊢
  obtain ⟨failure | text, after⟩ := reached
  · exact ran.not_tellsMissing
  · exact ran.1

/-! ## Calls -/

theorem saysOther_send (call : Call) : (Client.send call).SaysOther fun _ => True := by
  intro exchange ordinary
  have left : Exchange.IsOrdinary ⟨exchange.replies.tail, exchange.calls ++ [call]⟩ :=
    fun failure hm =>
      ordinary failure (List.mem_of_mem_tail hm)
  change Outcome _ (Client.bodyFor call exchange.replies.head?, _)
  cases next : exchange.replies.head? with
  | none => exact Failure.saysOther_of_kind rfl
  | some reply =>
    cases reply with
    | failed failure =>
      exact Failure.saysOther_of_kind (ordinary failure (List.mem_of_mem_head? next))
    | response status body =>
      have begins : BeginsWith 'u' "unknown url type: " := beginsWith_ofList _ _
      unfold Client.bodyFor
      dsimp only
      split_ifs
      · exact Failure.saysOther_of (begins.append _) (by decide)
      · exact ⟨trivial, left⟩
      · exact Failure.saysOther_of_kind rfl

theorem saysOther_fetch (credentials : Credentials) (address : Except AddressFault Address)
    (fields : List (String × String)) :
    (Client.fetch credentials address fields).SaysOther fun _ => True := by
  refine saysOther_bind (saysOther_ofExcept (fun _ _ => trivial) (failsOtherwise_choose _))
    fun token _ => ?_
  refine saysOther_bind (saysOther_ofExcept (fun _ _ => trivial) (failsOtherwise_prepare _ _ _))
    fun call _ => ?_
  refine saysOther_bind (saysOther_send call) fun body _ => ?_
  exact saysOther_ofExcept (fun _ _ => trivial) (failsOtherwise_asJson body)

theorem saysOther_download (address : Except AddressFault Address) :
    (Client.download address).SaysOther fun _ => True := by
  refine saysOther_bind (saysOther_ofExcept (fun _ _ => trivial) (failsOtherwise_prepare _ _ _))
    fun call _ => ?_
  exact saysOther_bind (saysOther_send call) fun body _ => saysOther_pure trivial

theorem saysOther_fieldsOf (value : Json) (member : String) :
    (fieldsOf value member).SaysOther fun fields => value = .object fields := by
  cases value with
  | object fields => exact saysOther_pure rfl
  | _ =>
    exact saysOther_ofExcept (fun _ ok => by cases ok)
      (failsOtherwise_error (Failure.saysOther_of_kind rfl))

theorem saysOther_renderingOf (credentials : Credentials) (key id : String) :
    (renderingOf credentials key id).SaysOther fun _ => True := by
  unfold renderingOf
  refine saysOther_bind (saysOther_fetch _ _ _) fun value _ => ?_
  refine saysOther_bind (saysOther_fieldsOf _ _) fun images _ => ?_
  refine saysOther_bind (saysOther_fieldsOf _ _) fun renderings _ => ?_
  dsimp only
  split
  · exact saysOther_pure trivial
  · split
    · rw [← bind_pure_comp]
      exact saysOther_bind (saysOther_download _) fun _ _ => saysOther_pure trivial
    · exact saysOther_ofExcept (fun _ _ => trivial)
        (failsOtherwise_error (Failure.saysOther_of_kind rfl))

/-! ## Components -/

theorem beginsWith_joinLines {c : Char} {line : String} {more : List String}
    (h : BeginsWith c line) :
    BeginsWith c (Text.joinLines (line :: more)) := by
  cases more with
  | nil => rwa [Text.joinLines, String.intercalate_singleton]
  | cons next more =>
    rw [BeginsWith, Text.toList_joinLines_cons line (List.cons_ne_nil _ _), List.head?_append, h]
    rfl

theorem not_tellsMissing_render (format : AnswerFormat) (generated : Generated) (label : String) :
    ¬ TellsMissing (GeneratedAnswer.render format generated label) := by
  have other {c : Char} {text : String} (begins : BeginsWith c text) (apart : c ≠ 'E') :
      ¬ TellsMissing (cutOff text) := fun told =>
        apart (begins.unique ((head?_cutOff text).symm.trans (beginsWith_of_tellsMissing told)))
  cases format with
  | json => exact other (head?_object _) (by decide)
  | markdown =>
    have begins : BeginsWith '#' "# Generated Component: " := beginsWith_ofList _ _
    exact other (beginsWith_joinLines (begins.append _)) (by decide)

theorem saysOther_optionsFailure (problems : List Problem) :
    (optionsFailure problems).SaysOther := by
  have counted : ∃ c, c ≠ 'N' ∧ BeginsWith c (intText problems.length) := by
    obtain ⟨ne, digits⟩ := Json.isDigits_toDigits problems.length
    obtain ⟨c, rest, same⟩ := List.exists_cons_of_ne_nil ne
    have shown : intText problems.length = toString problems.length := by simp [intText, signed]
    refine ⟨c, ?_, by rw [BeginsWith, shown, toList_toString, same]; rfl⟩
    rintro rfl
    exact absurd (digits 'N' (same ▸ List.mem_cons_self)) (by decide)
  obtain ⟨c, other, begins⟩ := counted
  refine Failure.saysOther_of (beginsWith_joinLines ?_) other
  exact (((begins.append _).append _).append _).append _

theorem saysOther_generationFailure (fault : GenerationError) :
    (generationFailure fault).SaysOther := by
  cases fault with
  | options problems => exact saysOther_optionsFailure problems
  | design fault =>
    have begins : BeginsWith 'c' DesignError.undefinedChannel.message := beginsWith_ofList _ _
    cases fault with
    | undefinedChannel => exact Failure.saysOther_of begins (by decide)
    | _ => exact Failure.saysOther_of_kind rfl
  | input missing =>
    have named : BeginsWith 'C' MissingInput.name.message := beginsWith_ofList _ _
    have marked : BeginsWith 'M' MissingInput.markup.message := beginsWith_ofList _ _
    cases missing with
    | name => exact Failure.saysOther_of named (by decide)
    | markup => exact Failure.saysOther_of marked (by decide)
  | encoding fault =>
    have quoted : BeginsWith '\'' "'utf-8' codec can't encode " := beginsWith_ofList _ _
    have begins : BeginsWith '\'' fault.message :=
      (((quoted.append _).append _).append _).append _
    exact Failure.saysOther_of begins (by decide)

variable {compiler : Compiler} {session : String} {credentials : Credentials}
  {request : ComponentRequest}

theorem saysOther_generateFrom (selection : Selection) (markup : Option String) :
    (Client.ofExcept (generateFrom compiler session request selection markup)).SaysOther
      fun text => ¬ TellsMissing text := by
  refine saysOther_ofExcept (fun text made => ?_) ?_
  · obtain ⟨generated, rfl⟩ := generateFrom_eq_ok made
    exact not_tellsMissing_render _ _ _
  · unfold generateFrom
    refine failsOtherwise_bind (failsOtherwise_mapError saysOther_optionsFailure) fun config => ?_
    exact failsOtherwise_bind (failsOtherwise_mapError saysOther_generationFailure) fun _ =>
      failsOtherwise_ok _

/-- Behind what was yielded, the work is answered by the rest of it. -/
theorem answered_bind {work : Client α} {next : α → Client String} {a : α} {after : Exchange}
    (ran : work.run exchange = (.ok a, after)) :
    answered (work >>= next) exchange = answered (next a) after := by
  rw [answered, Client.run_bind_ok ran, answered]

theorem field_withKey (key : String) (fields : Json.Fields) {name : String} (other : name ≠ "key") :
    (Json.object (withKey key fields)).field name = (Json.object fields).field name := by
  unfold withKey
  split
  · rfl
  · have kept : (Json.object (Json.Fields.put "key" (.string key) fields)).get? name =
        (Json.object fields).get? name := Entries.lookup_put (Json.string key) other
    rw [Json.field, Json.fieldOr, kept]
    rfl

/-- A component is made of a node that is found, or something else is told than that it is
missing. -/
theorem not_tellsMissing_generateComponent {file found : Json} {id : String} {after : Exchange}
    (named : request.nodeId = some id) (held : (file.field "document").isObject = true)
    (known : findNode (file.field "document") (.string id) = some found)
      (ordinary : exchange.IsOrdinary)
    (fetched : (Client.fetch credentials (fileAddress request.fileKey)).run exchange =
      (.ok file, after)) :
    ¬ TellsMissing (generateComponent compiler session credentials request exchange).1 := by
  have left : after.IsOrdinary := by
    have ran := saysOther_fetch credentials (fileAddress request.fileKey) [] exchange ordinary
    rw [fetched] at ran
    exact ran.2
  rw [generateComponent, componentWork, answered_bind fetched]
  refine not_tellsMissing_answered ?_ left
  refine saysOther_bind (saysOther_fieldsOf _ _) fun fields object => ?_
  subst object
  have same := field_withKey request.fileKey fields (by decide : "document" ≠ "key")
  rw [← same] at held known
  have there : (Json.object (withKey request.fileKey fields)).field "document" ≠ .null := by
    intro absent
    rw [absent] at held
    cases held
  dsimp only
  rw [named, fieldOr_eq_field there]
  dsimp only
  refine saysOther_bind (saysOther_fieldsOf _ _) fun _ _ => ?_
  rw [known]
  dsimp only
  split
  · refine saysOther_bind (saysOther_renderingOf _ _ _) fun markup _ => ?_
    have mark : "Error: Figma could not render node '" = "Error: " ++
        "Figma could not render node '" := by
      decide
    have begins : BeginsWith 'F' "Figma could not render node '" := beginsWith_ofList _ _
    split
    · rw [mark, String.append_assoc, String.append_assoc]
      exact saysOther_pure (not_tellsMissing_error (begins.append _) (by decide))
    · exact saysOther_generateFrom _ _
  · exact saysOther_generateFrom _ _

end Service

end Handoff
