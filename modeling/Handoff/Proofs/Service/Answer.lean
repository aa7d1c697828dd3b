import Handoff.Proofs.Json.Writer
import Handoff.Proofs.Markup.Spelling
import Handoff.Service.Tool

/-! # Answers that can be read

What the tools answer in JSON is written from one document. The tools that make components and
validate sources cut the text off where it is too long, and what they leave is a document no more;
the other tools never cut it. Whatever goes wrong is told in an answer of its own kind.
-/

namespace Handoff.Service

open Json

/-! ## Cutting off -/

variable {text : String}

theorem cutOff_of_le (fits : text.length ≤ answerLimit) : cutOff text = text :=
  if_neg (Nat.not_lt.mpr fits)

/-- The words behind a text that is cut off end like no document. -/
theorem not_isDocument_cutOff (long : answerLimit < text.length) : ¬ IsDocument (cutOff text) := by
  have last : (cutOff text).toList.getLast? = some ')' := by
    rw [cutOff, if_pos long, String.toList_append, List.getLast?_append]
    rfl
  exact not_isDocument_of_last last (by decide) (by decide)

theorem isDocument_cutOff_iff (document : Json) :
    IsDocument (cutOff document.indented) ↔ document.indented.length ≤ answerLimit := by
  constructor
  · exact fun whole => Nat.not_lt.mp fun long => not_isDocument_cutOff long whole
  · exact fun fits => (cutOff_of_le fits).symm ▸ isDocument_indented document

/-! ## Answers for failures -/

def IsError (text : String) : Prop := "Error:".toList <+: text.toList

theorem IsError.append (h : IsError text) (rest : String) : IsError (text ++ rest) := by
  rw [IsError, String.toList_append]
  exact h.trans (List.prefix_append _ _)

theorem isError_ofList (rest : List Char) : IsError (String.ofList ("Error:".toList ++ rest)) :=
  ⟨rest, String.toList_ofList.symm⟩

theorem isError_answer (failure : Failure) : IsError failure.answer := by
  have led : IsError "Error: " := isError_ofList _
  unfold Failure.answer
  split
  case h_1 status reading =>
    have other : IsError "Error: Figma API returned status " := isError_ofList _
    unfold Failure.statusAnswer
    split_ifs
    · exact isError_ofList _
    · exact isError_ofList _
    · exact isError_ofList _
    · exact isError_ofList _
    · exact other.append _
  case h_2 kind reading =>
    split_ifs
    · exact isError_ofList _
    · exact led.append _
    · exact ((((led.append _).append _).append _).append _).append _

theorem head?_cutOff (text : String) : (cutOff text).toList.head? = text.toList.head? := by
  unfold cutOff
  split
  case isTrue long =>
    have some : text.toList ≠ [] := by
      rw [← List.length_pos_iff, String.length_toList]
      exact Nat.zero_lt_of_lt long
    cases h : text.toList with
    | nil => exact absurd h some
    | cons c rest => rw [String.toList_append, String.toList_ofList]; rfl
  case isFalse short => rfl

theorem head?_object (fields : List (String × Json)) :
    (Json.object fields).indented.toList.head? = some '\x7b' := by
  obtain ⟨rest, same⟩ :=
    prefix_enclose (writeFields (Layout.indented 0).deeper fields) (.indented 0)
    "\x7b" "\x7d"
  exact congrArg List.head? same.symm

/-- What begins like an object does not read like a failure. -/
theorem not_isError_of_head? (first : text.toList.head? = some '\x7b') : ¬ IsError text := by
  rintro ⟨rest, same⟩
  rw [← same] at first
  exact absurd first (by simp)

/-! ## What a tool's work yields -/

section Yields

variable {α β : Type} {P : α → Prop} {Q : β → Prop}

/-- Whatever a part of a tool's work yields has a property. -/
def Client.Yields (work : Client α) (P : α → Prop) : Prop :=
  ∀ exchange a after, work.run exchange = (.ok a, after) → P a

theorem yields_pure {a : α} (h : P a) : (pure a : Client α).Yields P := by
  rintro exchange _ after ⟨⟩
  exact h

theorem yields_ofExcept {result : Except Failure α} (h : ∀ a, result = .ok a → P a) :
    (Client.ofExcept result).Yields P := by
  rintro exchange a after ran
  exact h a (Prod.mk.inj ran).1

theorem Client.run_bind_ok {work : Client α} {next : α → Client β}
    {exchange after : Exchange} {a : α} (ran : work.run exchange = (.ok a, after)) :
    (work >>= next).run exchange = (next a).run after := by
  rw [ExceptT.run_bind]
  change StateT.bind work.run _ exchange = _
  rw [StateT.bind, ran]
  rfl

theorem Client.run_bind_error {work : Client α} {next : α → Client β} {exchange after : Exchange}
    {failure : Failure} (ran : work.run exchange = (.error failure, after)) :
    (work >>= next).run exchange = (.error failure, after) := by
  rw [ExceptT.run_bind]
  change StateT.bind work.run _ exchange = _
  rw [StateT.bind, ran]
  rfl

/-- What comes before a part of the work has no say in what that part yields. -/
theorem yields_bind {work : Client α} {next : α → Client β} (h : ∀ a, (next a).Yields Q) :
    (work >>= next).Yields Q := by
  intro exchange b after ran
  rcases reached : work.run exchange with ⟨failure | a, between⟩
  · rw [Client.run_bind_error reached] at ran
    cases ran
  · rw [Client.run_bind_ok reached] at ran
    exact h a between b after ran

theorem answered_spec {work : Client String} {P : String → Prop} (h : work.Yields P)
    (exchange : Exchange) :
    P (answered work exchange).1 ∨ IsError (answered work exchange).1 := by
  unfold answered
  split
  case h_1 text after ran => exact .inl (h exchange text after ran)
  case h_2 failure after ran => exact .inr (isError_answer failure)

end Yields

/-! ## Requests -/

inductive Request where
  | component (session : String) (credentials : Credentials) (request : ComponentRequest)
  | listing (credentials : Credentials) (request : FileRequest)
  | validation (request : ValidationRequest)
  | metrics (request : MetricsRequest)

namespace Request

def format : Request → AnswerFormat
  | component _ _ request => request.format
  | listing _ request => request.format
  | validation request => request.format
  | metrics request => request.format

/-- What a tool answers, given the replies that it gets. -/
def answer (compiler : Compiler) (exchange : Exchange) : Request → String
  | component session credentials request =>
    (generateComponent compiler session credentials request exchange).1
  | listing credentials request => (listExportable credentials request exchange).1
  | validation request => validateCode compiler request
  | metrics request => measureCode request

/-- Whether a document that is asked for is cut off where it is too long. -/
def cutsOff : Request → Bool
  | component .. | validation _ => true
  | listing .. | metrics _ => false

def IsAnsweredBy (compiler : Compiler) (document : Json) : Request → Prop
  | component .. => ∃ generated : Generated, document = generated.toJson
  | listing _ request => ∃ name ids, document = ListingAnswer.toJson request.fileKey name ids
  | validation request =>
    let result := Validation.validate compiler (some request.code) request.language.name
    document = .object (result.toFields ++ [("isValid", .bool result.isValid)])
  | metrics request =>
    document = MetricsAnswer.toJson (.ofCode request.code)
      (.ofCode request.componentName request.code)

end Request

variable {compiler : Compiler} {session : String} {credentials : Credentials}

theorem generateFrom_eq_ok {request : ComponentRequest} {selection : Selection}
    {markup : Option String}
    (h : generateFrom compiler session request selection markup = .ok text) :
    ∃ generated, text = GeneratedAnswer.render request.format generated selection.label := by
  unfold generateFrom at h
  cases hc : (request.toConfig selection.name).mapError optionsFailure with
  | error failure => simp [hc, bind, Except.bind] at h
  | ok config =>
    simp only [hc, bind, Except.bind] at h
    split at h
    case h_1 => cases h
    case h_2 generated ran => exact ⟨generated, (Except.ok.inj h).symm⟩

/-- Making a component yields a generated component in the form asked for, unless there is no such
node. -/
theorem yields_componentWork (request : ComponentRequest) :
    (componentWork compiler session credentials request).Yields fun text => IsError text ∨
      ∃ generated label, text = GeneratedAnswer.render request.format generated label := by
  have made (selection : Selection) (markup : Option String) :
      (Client.ofExcept (generateFrom compiler session request selection markup)).Yields fun text =>
        IsError text ∨ ∃ generated label, text =
          GeneratedAnswer.render request.format generated label := by
    refine yields_ofExcept fun text h => .inr ?_
    obtain ⟨generated, same⟩ := generateFrom_eq_ok h
    exact ⟨generated, selection.label, same⟩
  have unknown : IsError "Error: Node '" := isError_ofList _
  have undrawn : IsError "Error: Figma could not render node '" := isError_ofList _
  refine yields_bind fun value => yields_bind fun fields => ?_
  split
  case h_1 whole => exact made _ none
  case h_2 id part =>
    refine yields_bind fun _ => ?_
    split
    case h_1 missing => exact yields_pure (.inl ((unknown.append id).append _))
    case h_2 found here =>
      split
      case isTrue rendered =>
        refine yields_bind fun markup => ?_
        split
        case h_1 => exact yields_pure (.inl ((undrawn.append id).append _))
        case h_2 markup => exact made _ (some markup)
      case isFalse drawn => exact made _ none

theorem yields_listingWork (credentials : Credentials) {request : FileRequest}
    (asked : request.format = .json) :
    (listingWork credentials request).Yields fun text => ∃ name ids,
      text = (ListingAnswer.toJson request.fileKey name ids).indented := by
  refine yields_bind fun file => yields_bind fun fields => yields_bind fun root => yields_pure ?_
  rw [asked]
  exact ⟨_, _, rfl⟩

/-- In JSON, a tool that does not fail answers with a document, cut off or not. -/
theorem answer_eq_document {request : Request} {exchange : Exchange}
    (asked : request.format = .json) (done : ¬ IsError (request.answer compiler exchange)) :
    ∃ document, request.IsAnsweredBy compiler document ∧ request.answer compiler exchange =
      if request.cutsOff then cutOff document.indented else document.indented := by
  cases request with
  | component session credentials request =>
    rcases answered_spec (yields_componentWork request)
      exchange with (failed | ⟨generated, label, same⟩) | failed
    · exact absurd failed done
    · refine ⟨generated.toJson, ⟨generated, rfl⟩, ?_⟩
      simp only [Request.format] at asked
      simp only [Request.answer, generateComponent, same, asked, GeneratedAnswer.render,
        Request.cutsOff, if_true]
    · exact absurd failed done
  | listing credentials request =>
    rcases answered_spec (yields_listingWork credentials asked) exchange with ⟨name, ids,
      same⟩ | failed
    · refine ⟨ListingAnswer.toJson request.fileKey name ids, ⟨name, ids, rfl⟩, ?_⟩
      simp only [Request.answer, listExportable, same, Request.cutsOff,
        Bool.false_eq_true, if_false]
    · exact absurd failed done
  | validation request =>
    refine ⟨_, rfl, ?_⟩
    simp only [Request.format] at asked
    simp only [Request.answer, validateCode, asked, ValidationAnswer.render,
      Request.cutsOff, if_true]
  | metrics request =>
    refine ⟨_, rfl, ?_⟩
    simp only [Request.format] at asked
    simp only [Request.answer, measureCode, asked, MetricsAnswer.render, Request.cutsOff,
      Bool.false_eq_true, if_false]

theorem not_isError_metrics (compiler : Compiler) (exchange : Exchange) (code name : String) :
    ¬ IsError ((Request.metrics ⟨code, name, .json⟩).answer compiler exchange) := by
  simp only [Request.answer, measureCode, MetricsAnswer.render]
  exact not_isError_of_head? (head?_object _)

theorem not_isError_validation (compiler : Compiler) (exchange : Exchange) (code : String)
    (language : Language) :
    ¬ IsError ((Request.validation ⟨code, language, .json⟩).answer compiler exchange) := by
  simp only [Request.answer, validateCode, ValidationAnswer.render]
  exact not_isError_of_head? ((head?_cutOff _).trans (head?_object _))

/-- An answer in JSON that tells of no failure is one complete document, unless a document that is
too long was cut off. -/
theorem isDocument_answer_iff (compiler : Compiler) (request : Request) (exchange : Exchange)
    (asked : request.format = .json) (done : ¬ IsError (request.answer compiler exchange)) :
    ∃ document, request.IsAnsweredBy compiler document ∧
      (request.answer compiler exchange =
        if request.cutsOff then cutOff document.indented else document.indented) ∧
      (IsDocument (request.answer compiler exchange) ↔
        (request.cutsOff = true → document.indented.length ≤ answerLimit)) := by
  obtain ⟨document, holds, same⟩ := answer_eq_document asked done
  refine ⟨document, holds, same, ?_⟩
  rw [same]
  cases request.cutsOff with
  | true => simpa using isDocument_cutOff_iff document
  | false => simpa using isDocument_indented document

def branchMetrics : Request := .metrics ⟨"if (a) b(); else if (c) d();", "Icon", .json⟩

def shortValidation : Request := .validation ⟨"<p>a</p>", .html, .json⟩

theorem isDocument_answer_short :
    (branchMetrics.format = .json ∧
      ¬ IsError (branchMetrics.answer (fun _ _ => .ok []) ⟨[], []⟩) ∧
      IsDocument (branchMetrics.answer (fun _ _ => .ok []) ⟨[], []⟩)) ∧
    shortValidation.format = .json ∧
      ¬ IsError (shortValidation.answer (fun _ _ => .ok []) ⟨[], []⟩) ∧
      IsDocument (shortValidation.answer (fun _ _ => .ok []) ⟨[], []⟩) := by
  have measured : ¬ IsError (branchMetrics.answer (fun _ _ => .ok []) ⟨[], []⟩) :=
    not_isError_metrics _ _ _ _
  have validated : ¬ IsError (shortValidation.answer (fun _ _ => .ok []) ⟨[], []⟩) :=
    not_isError_validation _ _ _ _
  obtain ⟨_, -, -, whole⟩ :=
    isDocument_answer_iff (fun _ _ => .ok []) branchMetrics ⟨[], []⟩ rfl measured
  obtain ⟨document, answered, -, uncut⟩ :=
    isDocument_answer_iff (fun _ _ => .ok []) shortValidation ⟨[], []⟩ rfl validated
  have short : document.indented.length ≤ answerLimit := by
    rw [answered]
    decide +kernel
  exact ⟨⟨rfl, measured, whole.mpr nofun⟩, rfl, validated, uncut.mpr fun _ => short⟩

/-! ## A document that is cut off -/

theorem message_written {result : ValidationResult} {finding : Finding}
    (found : finding ∈ result.findings)
    (more : Json.Fields) : (writeText finding.message).toList <:+:
      (Json.object (result.toFields ++ more)).indented.toList := by
  have told : (writeText finding.message).toList <:+:
      (finding.toJson.write (Layout.indented 0).deeper.deeper).toList :=
    infix_object "message" (.string finding.message) (by simp) _
  have listed : (finding.toJson.write (Layout.indented 0).deeper.deeper).toList <:+:
      ((Json.list (result.findings.map Finding.toJson)).write (Layout.indented 0).deeper).toList :=
    infix_list (List.mem_map_of_mem found) _
  have held : ((Json.list (result.findings.map Finding.toJson)).write
      (Layout.indented 0).deeper).toList <:+:
      (Json.object (result.toFields ++ more)).indented.toList :=
    infix_object "errors" _ (by simp [ValidationResult.toFields]) _
  exact told.trans (listed.trans held)

/-- A tag that closes nothing, with a name of so many letters. -/
def strayTag (n : Nat) : String := String.ofList ("</".toList ++ List.replicate n 'a' ++ ['>'])

theorem checkTags_strayTag {n : Nat} (named : 0 < n) :
    ∃ tag : Markup.Tag, tag.name = List.replicate n 'a' ∧
      Markup.checkTags false true (strayTag n).toList =
        [(Markup.TagFault.unexpected tag).toFinding false] := by
  have name : Markup.IsTagName (List.replicate n 'a') := by
    have letter : ∀ c ∈ List.replicate n 'a', c = 'a' := fun c hc => List.eq_of_mem_replicate hc
    refine ⟨by simpa using Nat.ne_of_gt named, fun c hc => ?_, fun c hc => ?_⟩
    · rw [letter c (List.mem_of_mem_head? hc)]
      decide
    · rw [letter c hc]
      decide
  have shown : (Markup.tagsOf (strayTag n).toList).map Markup.Tag.unplaced =
      [Markup.closingTag (List.replicate n 'a')] := by
    have whole := Markup.shown_closing name none []
    rw [List.append_nil] at whole
    rw [strayTag, String.toList_ofList]
    exact whole
  obtain ⟨tag, alone, same⟩ := List.map_eq_singleton_iff.mp shown
  have closing : tag.closing = true := congrArg Markup.Tag.closing same
  refine ⟨tag, congrArg Markup.Tag.name same, ?_⟩
  simp [Markup.checkTags, alone, Markup.Tag.counts, closing, Markup.balance]

theorem findings_strayTag (compiler : Compiler) (n : Nat) :
    (Validation.validate compiler (some (strayTag n)) Language.html.name).findings =
      Markup.checkTags false true (strayTag n).toList := by
  have known : Language.ofName? (String.ofList (Text.lower Language.html.name.toList)) =
      some .html := by
    decide +kernel
  simp only [Validation.validate, known]
  rfl

/-- The name of a long stray tag is told in full, so that the document is too long. -/
theorem not_isDocument_strayTag (compiler : Compiler) {n : Nat} (long : answerLimit ≤ n) :
    ¬ IsError (validateCode compiler ⟨strayTag n, .html, .json⟩) ∧
      ¬ IsDocument (validateCode compiler ⟨strayTag n, .html, .json⟩) := by
  have positive : 0 < n := Nat.lt_of_lt_of_le (by decide) long
  obtain ⟨tag, name, checked⟩ := checkTags_strayTag positive
  have found : (Markup.TagFault.unexpected tag).toFinding false ∈
      (Validation.validate compiler (some (strayTag n)) Language.html.name).findings := by
    rw [findings_strayTag, checked]
    exact List.mem_singleton_self _
  have message : ((Markup.TagFault.unexpected tag).toFinding false).message =
      "Unexpected closing tag: " ++ String.ofList (List.replicate n 'a') := by
    rw [← name]
    rfl
  have size : n < ("Unexpected closing tag: " ++ String.ofList (List.replicate n 'a')).length := by
    have letters : (String.ofList (List.replicate n 'a')).length = n := by
      rw [String.length_ofList, List.length_replicate]
    rw [String.length_append, letters]
    exact Nat.lt_add_of_pos_left (by decide)
  simp only [validateCode, ValidationAnswer.render]
  generalize Validation.validate compiler (some (strayTag n)) Language.html.name = result at found ⊢
  constructor
  · exact not_isError_of_head? ((head?_cutOff _).trans (head?_object _))
  · refine not_isDocument_cutOff ?_
    have written := (message_written found [("isValid", .bool result.isValid)]).length_le
    have quoted := length_le_writeText ((Markup.TagFault.unexpected tag).toFinding false).message
    rw [String.length_toList, String.length_toList] at written
    rw [message] at written quoted
    exact Nat.lt_of_le_of_lt long (Nat.lt_of_lt_of_le size (quoted.trans written))

/-- An answer in JSON that is no document: the validation of a stray tag with a long name. -/
theorem cut_validation_not_document :
    (Request.validation ⟨strayTag 25000, .html, .json⟩).format = .json ∧
      ¬ IsError ((Request.validation ⟨strayTag 25000, .html, .json⟩).answer
        (fun _ _ => .ok []) ⟨[], []⟩) ∧
      ¬ IsDocument ((Request.validation ⟨strayTag 25000, .html, .json⟩).answer (fun _ _ => .ok [])
        ⟨[], []⟩) :=
  ⟨rfl, not_isDocument_strayTag _ (Nat.le_refl _)⟩

end Handoff.Service
