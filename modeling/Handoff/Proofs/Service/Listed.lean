import Handoff.Proofs.Service.Missing
import Handoff.Proofs.Text.Blank

/-! # Nodes that are listed can be asked for

The identifiers that are listed for a file are those of nodes in its document, as far as these have
a text for one. An identifier that is written without hyphens and without blanks around it comes
through the check of a request as it is, so the first node that has it is found, and a component is
made of it.
-/

namespace Handoff.Service

variable {file document input : Json} {id : String} {request : ComponentRequest}

/-! ## Identifiers in requests -/

/-- A text that stays as it is when it is checked as the name of a node. -/
structure IsNodeId (id : String) : Prop where
  ne_empty : id ≠ ""
  first : ∀ c ∈ id.toList.head?, Text.isBlank c = false
  last : ∀ c ∈ id.toList.getLast?, Text.isBlank c = false
  unhyphened : '-' ∉ id.toList

theorem IsNodeId.trimBlanks (h : IsNodeId id) : String.ofList (Text.trimBlanks id.toList) = id := by
  rw [Text.trimBlanks, Text.trimBoth_eq_self h.first h.last, String.ofList_toList]

theorem IsNodeId.nodeIdOf (h : IsNodeId id) : nodeIdOf (some id) = some id := by
  have filled : (!id.isEmpty) = true := by simpa using h.ne_empty
  have kept : (id.toList.map fun c => if c == '-' then ':' else c) = id.toList := by
    refine (List.map_congr_left fun c hc => ?_).trans (List.map_id _)
    have plain : (c == '-') = false := beq_false_of_ne fun same => h.unhyphened (same ▸ hc)
    rw [plain, if_neg Bool.false_ne_true, id_eq]
  rw [Service.nodeIdOf, Option.filter_some, if_pos filled, Option.map_some, kept,
    String.ofList_toList]

theorem nodeId_of_read (h : IsNodeId id) (read : ComponentRequest.read input = .ok request)
    (given : input.get? "node_id" = some (.string id)) : request.nodeId = some id := by
  have checked : (ComponentRequest.check input).value = request := by
    unfold ComponentRequest.read Checked.toExcept at read
    split at read
    · exact Except.ok.inj read
    · cases read
  have field : (checkField input ["node_id"] none (.optional .trimmed)).value = some id := by
    have there : input.firstField? ["node_id"] = some ("node_id", .string id) := by
      rw [Json.firstField?, List.findSome?_cons, given, Option.map_some]
    rw [checkField, there]
    exact congrArg some h.trimBlanks
  have asked : (ComponentRequest.check input).value.nodeId =
      Service.nodeIdOf (checkField input ["node_id"] none (.optional .trimmed)).value := rfl
  rw [← checked, asked, field, h.nodeIdOf]

/-! ## Listed nodes -/

def IsNamed (document : Json) : Prop :=
  ∀ path node, Reaches path document node → ∃ id, node.field "id" = .string id ∧ IsNodeId id

/-- The first node of a file with an identifier is found, a request for the identifier asks for this
node, and it is never answered by telling that the node is missing. -/
structure IsAvailable (file : Json) (id : String) : Prop where
  found : ∃ path found, findNode (file.field "document") (.string id) = some found ∧
    IsFirstNamed (file.field "document") id path found
  asked : ∀ input request, ComponentRequest.read input = .ok request →
    input.get? "node_id" = some (.string id) → request.nodeId = some id
  answered : ∀ compiler session credentials request exchange after, request.nodeId = some id →
    exchange.IsOrdinary →
    (Client.fetch credentials (fileAddress request.fileKey)).run exchange = (.ok file, after) →
    ¬ TellsMissing (generateComponent compiler session credentials request exchange).1

theorem unwrapDocument_eq (held : (file.field "document").isObject = true) :
    file.unwrapDocument = file.field "document" := by
  rw [Json.unwrapDocument, if_pos held]

theorem isAvailable_of_listed (held : (file.field "document").isObject = true)
    (named : IsNamed (file.field "document")) {root : Node}
      (read : Node.read file.unwrapDocument = .ok root)
    (listed : id ∈ DesignFile.exportableIds root) : IsAvailable file id := by
  rw [unwrapDocument_eq held] at read
  have texts : ∀ path node, Reaches path (file.field "document") node →
      ∃ id, node.field "id" = .string id :=
    fun path node reached => (named path node reached).imp fun _ own => own.1
  obtain ⟨path, node, reached, own⟩ := exists_named_of_listed read texts listed
  obtain ⟨other, same, isNodeId⟩ := named path node reached
  obtain rfl : id = other := Json.string.inj (own.symm.trans same)
  obtain ⟨place, found, known, first⟩ := findNode_of_named held reached own
  exact {
    found := ⟨place, found, known, first⟩
    asked := fun input request checked given => nodeId_of_read isNodeId checked given
    answered := fun compiler session credentials request exchange after asked ordinary fetched =>
      not_tellsMissing_generateComponent asked held known ordinary fetched }

/-- For every file with a document, each identifier that is listed is available, if all nodes have
fitting identifiers. For an identifier that no node has nothing is found. A search passes the nodes
that a stack visits, however deep they are. -/
theorem listed_nodes_available (file : Json) (held : (file.field "document").isObject = true) :
    (IsNamed (file.field "document") → ∀ root, Node.read file.unwrapDocument = .ok root →
      ∀ id ∈ DesignFile.exportableIds root, IsAvailable file id) ∧
    (∀ id, (∀ path node, Reaches path (file.field "document") node → node.field "id" ≠ .string id) →
      findNode (file.field "document") (.string id) = none) ∧
    ∀ visited, Visits Node.childValues [file.field "document"] visited → ∀ id,
      findNode (file.field "document") id = visited.find? fun node =>
        (node.field "id").same id := by
  refine ⟨fun named root read id listed => isAvailable_of_listed held named read listed,
    fun id absent => findNode_eq_none held absent, fun visited visits id => ?_⟩
  rw [visits.unique (visits_nodesOf held), findNode]

def doubledFile : Json :=
  .object [("document", .object [("id", .string "0:0"), ("type", .string "DOCUMENT"),
    ("children", .list [
    .object [("id", .string "1:2"), ("type", .string "FRAME"), ("children", .list [
      .object [("id", .string "1:2"), ("type", .string "COMPONENT")]])]])])]

theorem id_doubledFile {path : List Nat} {node : Json}
    (reached : Reaches path (doubledFile.field "document") node) :
    node.field "id" = .string "0:0" ∨ node.field "id" = .string "1:2" := by
  have ids : (nodesOf (doubledFile.field "document")).map (·.field "id") =
      [.string "0:0", .string "1:2", .string "1:2"] := rfl
  have hm := List.mem_map_of_mem (f := (·.field "id")) ((mem_nodesOf_iff rfl).mpr ⟨path, reached⟩)
  rw [ids] at hm
  simpa using hm

theorem isNamed_doubledFile : IsNamed (doubledFile.field "document") := by
  have outer : IsNodeId "0:0" := ⟨by decide, by decide, by decide, by decide⟩
  have inner : IsNodeId "1:2" := ⟨by decide, by decide, by decide, by decide⟩
  intro path node reached
  rcases id_doubledFile reached with own | own
  · exact ⟨"0:0", own, outer⟩
  · exact ⟨"1:2", own, inner⟩

/-- A request for the identifier that is listed twice, and the exchange in which the file is
fetched. -/
def doubledInput : Json := .object [("file_key", .string "abcdefghij"), ("node_id", .string "1:2")]

def doubledExchange : Exchange := { replies := [.response 200 (.json doubledFile)] }

theorem listed_nodes_available_doubled :
    (doubledFile.field "document").isObject = true ∧ IsNamed (doubledFile.field "document") ∧
      (∃ root, Node.read doubledFile.unwrapDocument = .ok root ∧
        DesignFile.exportableIds root = ["1:2", "1:2"]) ∧
      (∃ path found, findNode (doubledFile.field "document") (.string "1:2") = some found ∧
        IsFirstNamed (doubledFile.field "document") "1:2" path found) ∧
      (∃ request, ComponentRequest.read doubledInput = .ok request ∧ request.nodeId = some "1:2" ∧
        ∀ compiler session, ¬ TellsMissing
          (generateComponent compiler session ⟨some "token", none⟩ request doubledExchange).1) ∧
      findNode (doubledFile.field "document") (.string "9:9") = none := by
  obtain ⟨available, absent, -⟩ := listed_nodes_available doubledFile rfl
  have root : ∃ root, Node.read doubledFile.unwrapDocument = .ok root ∧
      DesignFile.exportableIds root = ["1:2", "1:2"] := ⟨_, rfl, rfl⟩
  have fetched :
      ∃ after, (Client.fetch ⟨some "token", none⟩ (fileAddress "abcdefghij")).run doubledExchange =
      (.ok doubledFile, after) := ⟨_, rfl⟩
  have request : ∃ request, ComponentRequest.read doubledInput = .ok request ∧
      request.fileKey = "abcdefghij" :=
    ⟨_, rfl, rfl⟩
  have ordinary : doubledExchange.IsOrdinary := fun failure hm => by cases List.mem_singleton.mp hm
  obtain ⟨root, read, ids⟩ := root
  obtain ⟨after, fetched⟩ := fetched
  obtain ⟨request, checked, key⟩ := request
  obtain ⟨found, asked, answered⟩ :=
    available isNamed_doubledFile root read "1:2" (ids ▸ List.mem_cons_self)
  have node := asked doubledInput request checked rfl
  rw [← key] at fetched
  refine ⟨rfl, isNamed_doubledFile, ⟨root, read, ids⟩, found,
    ⟨request, checked, node, fun compiler session => ?_⟩, ?_⟩
  · exact answered compiler session _ request doubledExchange after node ordinary fetched
  · refine absent "9:9" fun path node reached own => ?_
    rcases id_doubledFile reached with same | same
    · exact absurd (Json.string.inj (own.symm.trans same)) (by decide)
    · exact absurd (Json.string.inj (own.symm.trans same)) (by decide)

end Handoff.Service
