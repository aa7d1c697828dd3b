import Handoff.Design.File
import Handoff.Proofs.Design.Visit
import Handoff.Proofs.Drawing.Order
import Handoff.Service.Lookup

/-! # Looking up nodes by their places

A document is searched with a stack, as it arrives and however deep it is. The nodes come in
document order, which is the order of their paths, so what is found is the first node of all that
have the identifier.
-/

namespace Handoff

open Service

variable {document found node value : Json} {levels : Nat} {path : List Nat} {id : String}

/-! ## The nodes of a document -/

theorem nodesOfFields_eq (fields : Json.Fields) :
    nodesOfFields fields = nodesOfChildren ((Json.object fields).field "children") := by
  induction fields with
  | nil => rfl
  | cons entry rest ih =>
    obtain ⟨key, value⟩ := entry
    rw [nodesOfFields]
    by_cases here : key = "children"
    · subst here
      rfl
    · have behind : Json.Fields.get? ((key, value) :: rest) "children" =
          Json.Fields.get? rest "children" := by
        rw [Json.Fields.get?, List.lookup_cons, beq_false_of_ne (Ne.symm here)]
        rfl
      rw [beq_false_of_ne here, if_neg Bool.false_ne_true, ih, Json.field, Json.field, Json.fieldOr,
        Json.fieldOr, Json.get?, Json.get?, behind]

theorem nodesOfItems_eq (items : List Json) :
    nodesOfItems items = (items.filter (·.isObject)).flatMap nodesOf := by
  induction items with
  | nil => rfl
  | cons item rest ih =>
    rw [nodesOfItems, ih, List.filter_cons]
    cases item <;> rfl

theorem nodesOf_eq (object : value.isObject = true) :
    nodesOf value = value :: (Node.childValues value).flatMap nodesOf := by
  cases value with
  | object fields =>
    rw [nodesOf, nodesOfFields_eq, Node.childValues]
    cases (Json.object fields).field "children" with
    | list items => rw [nodesOfChildren, nodesOfItems_eq]; rfl
    | _ => rfl
  | _ => cases object

theorem isObject_of_childValues {child : Json} (h : child ∈ Node.childValues value) :
    child.isObject = true :=
  (List.mem_filter.mp h).2

theorem visits_nodesOf (object : document.isObject = true) :
    Visits Node.childValues [document] (nodesOf document) := by
  have visit := visits_flatMap (fun _ => nodesOf_eq) (fun _ _ => isObject_of_childValues)
    (List.forall_mem_singleton.mpr object)
  rwa [List.flatMap_singleton] at visit

theorem length_nodesOf_lt {child : Json} (object : value.isObject = true)
    (h : child ∈ Node.childValues value) :
    (nodesOf child).length < (nodesOf value).length := by
  have part : (nodesOf child).Sublist ((Node.childValues value).flatMap nodesOf) := by
    rw [List.flatMap_def]
    exact List.sublist_flatten_of_mem (List.mem_map_of_mem h)
  rw [nodesOf_eq object, List.length_cons]
  exact Nat.lt_succ_of_le part.length_le

theorem nodesOf_eq_valuesBelow (object : value.isObject = true)
    (deep : (nodesOf value).length ≤ levels) :
    nodesOf value = value :: (valuesBelow levels value).map Prod.snd := by
  induction levels generalizing value with
  | zero =>
    rw [nodesOf_eq object] at deep
    exact absurd deep (Nat.not_succ_le_zero _)
  | succ levels ih =>
    rw [nodesOf_eq object, childValues_eq, valuesBelow, List.flatMap_map, List.map_flatMap]
    refine congrArg _ (List.flatMap_congr fun entry hm => ?_)
    have child : entry.1 ∈ Node.childValues value := by
      rw [childValues_eq]
      exact List.mem_map_of_mem hm
    have less := length_nodesOf_lt object child
    rw [ih (isObject_of_childValues child) (by omega), List.map_cons, List.map_map]
    rfl

theorem length_lt_of_reaches (object : value.isObject = true) (h : Reaches path value node) :
    path.length < (nodesOf value).length := by
  induction h with
  | here value =>
    rw [nodesOf_eq object]
    exact Nat.succ_pos _
  | @child value child target items place path listed found inside _ ih =>
    have child : child ∈ Node.childValues value := by
      rw [Node.childValues, listed]
      exact List.mem_filter.mpr ⟨List.mem_of_getElem? found, inside⟩
    have less := length_nodesOf_lt object child
    have behind := ih inside
    rw [List.length_cons]
    omega

def placedNodes (document : Json) : List (List Nat × Json) :=
  ([], document) :: valuesBelow (nodesOf document).length document

theorem map_snd_placedNodes (object : document.isObject = true) :
    (placedNodes document).map Prod.snd = nodesOf document :=
  (nodesOf_eq_valuesBelow object (Nat.le_refl _)).symm

theorem mem_placedNodes_iff (object : document.isObject = true) :
    (path, node) ∈ placedNodes document ↔ Reaches path document node := by
  rw [placedNodes, List.mem_cons, mem_valuesBelow_iff]
  constructor
  · rintro (he | ⟨-, -, reached⟩)
    · cases he
      exact .here _
    · exact reached
  · intro reached
    cases path with
    | nil => exact .inl (congrArg _ (reaches_nil_iff.mp reached))
    | cons place path =>
      exact .inr ⟨Nat.succ_pos _, Nat.le_of_lt (length_lt_of_reaches object reached), reached⟩

theorem pairwise_placedNodes (document : Json) :
    (placedNodes document).Pairwise fun a b => List.Lex (· < ·) a.1 b.1 := by
  refine List.pairwise_cons.mpr ⟨?_, pairwise_valuesBelow _ _⟩
  rintro ⟨path, node⟩ hm
  obtain ⟨low, -, -⟩ := mem_valuesBelow_iff.mp hm
  obtain ⟨place, path, rfl⟩ := List.exists_cons_of_length_pos low
  exact .nil

theorem mem_nodesOf_iff (object : document.isObject = true) :
    node ∈ nodesOf document ↔ ∃ path, Reaches path document node := by
  rw [← map_snd_placedNodes object, List.mem_map]
  simp only [Prod.exists, exists_eq_right, mem_placedNodes_iff object]

/-! ## The first node with an identifier -/

theorem same_string_iff : value.same (.string id) = true ↔ value = .string id := by
  cases value <;> simp [Json.same, Json.sameScalar, Json.exactNumber?]

structure IsFirstNamed (document : Json) (id : String) (path : List Nat) (found : Json) : Prop where
  reached : Reaches path document found
  named : found.field "id" = .string id
  first : ∀ other node, Reaches other document node → node.field "id" = .string id →
    other = path ∨ List.Lex (· < ·) path other

theorem find?_first {α : Type} {r : α → α → Prop} {p : α → Bool} {l : List α} {a : α}
    (sorted : l.Pairwise r) (h : l.find? p = some a) : ∀ b ∈ l, p b = true → b = a ∨ r a b := by
  obtain ⟨-, before, behind, rfl, passed⟩ := List.find?_eq_some_iff_append.mp h
  intro b hm asked
  rcases List.mem_append.mp hm with early | late
  · have refused := passed b early
    rw [asked] at refused
    cases refused
  · rcases List.mem_cons.mp late with rfl | late
    · exact .inl rfl
    · obtain ⟨-, below, -⟩ := List.pairwise_append.mp sorted
      exact .inr ((List.pairwise_cons.mp below).1 b late)

theorem findNode_of_named (object : document.isObject = true) (reached : Reaches path document node)
    (named : node.field "id" = .string id) :
    ∃ place found, findNode document (.string id) = some found ∧
    IsFirstNamed document id place found := by
  have search : findNode document (.string id) =
      ((placedNodes document).find? fun entry => (entry.2.field "id").same (.string id)).map
        Prod.snd := by
    rw [findNode, ← map_snd_placedNodes object, List.find?_map]
    rfl
  cases hf : (placedNodes document).find? fun entry => (entry.2.field "id").same (.string id) with
  | none =>
    have hm := (mem_placedNodes_iff object).mpr reached
    exact absurd (same_string_iff.mpr named) (List.find?_eq_none.mp hf _ hm)
  | some entry =>
    obtain ⟨place, found⟩ := entry
    have same := List.find?_some hf
    refine ⟨place, found, by rw [search, hf]; rfl, ?_, same_string_iff.mp same, ?_⟩
    · exact (mem_placedNodes_iff object).mp (List.mem_of_find?_eq_some hf)
    · intro other node reached named
      have listed := (mem_placedNodes_iff object).mpr reached
      rcases find?_first (pairwise_placedNodes document) hf _ listed
        (same_string_iff.mpr named) with he | later
      · exact .inl (congrArg Prod.fst he)
      · exact .inr later

theorem findNode_eq_none (object : document.isObject = true)
    (absent : ∀ path node, Reaches path document node → node.field "id" ≠ .string id) :
    findNode document (.string id) = none := by
  rw [findNode, List.find?_eq_none]
  intro node hm asked
  obtain ⟨path, reached⟩ := (mem_nodesOf_iff object).mp hm
  exact absent path node reached (same_string_iff.mp asked)

/-! ## Identifiers that are listed -/

/-- A field that is not null is there, whatever would stand for a missing one. -/
theorem fieldOr_eq_field {name : String} (h : value.field name ≠ .null) (other : Json) :
    value.fieldOr name other = value.field name := by
  unfold Json.field Json.fieldOr at h ⊢
  cases got : value.get? name with
  | some found => rfl
  | none =>
    rw [got] at h
    exact absurd rfl h

theorem exists_of_forall₂ {α β : Type} {R : α → β → Prop} {l : List α} {r : List β} {b : β}
    (h : List.Forall₂ R l r) (hm : b ∈ r) : ∃ a ∈ l, R a b := by
  induction h with
  | nil => cases hm
  | cons first _ ih =>
    rcases List.mem_cons.mp hm with rfl | hm
    · exact ⟨_, List.mem_cons_self, first⟩
    · obtain ⟨a, ha, related⟩ := ih hm
      exact ⟨a, List.mem_cons_of_mem _ ha, related⟩

theorem exists_value_of_walk {root target : Node} (h : Node.ofJson levels value = .ok root)
    (hm : target ∈ root.walk) :
    ∃ path found, Reaches path value found ∧
    target.id = (found.fieldOr "id" (.string "")).display := by
  rw [Node.walk_eq, List.mem_cons] at hm
  rcases hm with rfl | hm
  · exact ⟨[], value, .here value, Node.id_ofJson h⟩
  · obtain ⟨⟨path, found⟩, listed, levels, read⟩ := exists_of_forall₂ (walkAll_ofJson h) hm
    exact ⟨path, found, (mem_valuesBelow_iff.mp listed).2.2, Node.id_ofJson read⟩

theorem exists_named_of_listed {root : Node} (read : Node.read document = .ok root)
    (named : ∀ path node, Reaches path document node → ∃ id, node.field "id" = .string id)
    (listed : id ∈ DesignFile.exportableIds root) :
    ∃ path node, Reaches path document node ∧ node.field "id" = .string id := by
  obtain ⟨target, hm, rfl⟩ := List.mem_map.mp listed
  obtain ⟨path, node, reached, same⟩ := exists_value_of_walk read (List.mem_of_mem_filter hm)
  obtain ⟨own, field⟩ := named path node reached
  have there : node.field "id" ≠ .null := by
    rw [field]
    exact Json.noConfusion
  rw [fieldOr_eq_field there, field] at same
  exact ⟨path, node, reached, field.trans (congrArg Json.string same.symm)⟩

end Handoff
