import Handoff.Compiler.SyntaxTree
import Mathlib.Data.List.Basic
import Mathlib.Tactic.Choose

/-! # Places in syntax trees

A node of a tree is found by its path, the places among the children on the way to it. Document
order is the order of paths: a node stands before those below it, and before those behind it. What
is collected from a tree is told by the paths at which it stands, so that equal nodes at two places
are two.
-/

namespace Handoff.Compiler

variable {α β : Type} {stands stands' : List Nat → α → Prop} {values : List α} {value : α}
  {path : List Nat} {place : Nat} {tree node child : SyntaxTree}

/-! ## Nodes and paths -/

namespace SyntaxTree

def node? (tree : SyntaxTree) : List Nat → Option SyntaxTree
  | [] => some tree
  | place :: path => tree.children[place]?.bind (·.node? path)

def passed (tree : SyntaxTree) : List Nat → List SyntaxTree
  | [] => []
  | place :: path => tree :: (tree.children[place]?.map (·.passed path)).getD []

theorem node?_cons_eq_some_iff : tree.node? (place :: path) = some node ↔
    ∃ child, tree.children[place]? = some child ∧ child.node? path = some node :=
  Option.bind_eq_some_iff

theorem passed_cons {child : SyntaxTree} (found : tree.children[place]? = some child)
    (path : List Nat) :
    tree.passed (place :: path) = tree :: child.passed path := by
  rw [passed, found]
  rfl

/-- A node stands in a tree. -/
def Has (tree node : SyntaxTree) : Prop := ∃ path, tree.node? path = some node

theorem Has.refl (tree : SyntaxTree) : tree.Has tree := ⟨[], rfl⟩

theorem Has.of_child (below : child ∈ tree.children) (h : child.Has node) : tree.Has node := by
  obtain ⟨place, found⟩ := List.mem_iff_getElem?.mp below
  obtain ⟨path, there⟩ := h
  exact ⟨place :: path, node?_cons_eq_some_iff.mpr ⟨child, found, there⟩⟩

theorem has_child (below : child ∈ tree.children) : tree.Has child :=
  (Has.refl child).of_child below

theorem Has.trans {inner : SyntaxTree} (h : tree.Has inner) (h' : inner.Has node) :
    tree.Has node := by
  obtain ⟨path, there⟩ := h
  induction path generalizing tree with
  | nil => exact Option.some.inj there ▸ h'
  | cons place path ih =>
    obtain ⟨child, found, there⟩ := node?_cons_eq_some_iff.mp there
    exact (ih there).of_child (List.mem_of_getElem? found)

/-- What holds of a tree if it holds of all trees right below it holds of every tree. -/
theorem induction {P : SyntaxTree → Prop}
    (step : ∀ tree : SyntaxTree, (∀ child ∈ tree.children, P child) → P tree) : ∀ tree, P tree
  | .node info children => step (.node info children) fun child _ => induction step child
termination_by tree => sizeOf tree
decreasing_by
  rename_i below
  have less := List.sizeOf_lt_of_mem (show child ∈ children from below)
  simp only [node.sizeOf_spec]
  omega

end SyntaxTree

/-! ## Values in document order -/

/-- The values are those that stand at paths, one for each path and in the order of the paths. -/
def InOrder (stands : List Nat → α → Prop) (values : List α) : Prop :=
  ∃ placed : List (List Nat × α), placed.map Prod.snd = values ∧
    placed.Pairwise (fun a b => List.Lex (· < ·) a.1 b.1) ∧
    ∀ path value, (path, value) ∈ placed ↔ stands path value

theorem InOrder.exists_path (h : InOrder stands values) (hm : value ∈ values) :
    ∃ path, stands path value := by
  obtain ⟨placed, rfl, -, complete⟩ := h
  obtain ⟨⟨path, value⟩, listed, rfl⟩ := List.mem_map.mp hm
  exact ⟨path, (complete path value).mp listed⟩

theorem InOrder.congr (h : InOrder stands values)
    (same : ∀ path value, stands path value ↔ stands' path value) :
    InOrder stands' values := by
  obtain ⟨placed, here, ordered, complete⟩ := h
  exact ⟨placed, here, ordered, fun path value => (complete path value).trans (same path value)⟩

theorem inOrder_toList (found : Option α) :
    InOrder (fun path value => path = [] ∧ found = some value) found.toList := by
  cases found with
  | none => exact ⟨[], rfl, .nil, by simp⟩
  | some value => exact ⟨[([], value)], rfl, List.pairwise_singleton _ _, by simp [eq_comm]⟩

/-- What stands nowhere unless a condition holds is not there unless it does. -/
theorem InOrder.guard (h : InOrder stands values) (p : Prop) [Decidable p] :
    InOrder (fun path value => p ∧ stands path value) (if p then values else []) := by
  split
  · rename_i holds
    exact h.congr fun path value => (and_iff_right holds).symm
  · rename_i fails
    exact ⟨[], rfl, .nil, by simp [fails]⟩

theorem InOrder.below (h : InOrder stands values) (place : Nat) :
    InOrder (fun path value => ∃ rest, path = place :: rest ∧ stands rest value) values := by
  obtain ⟨placed, rfl, ordered, complete⟩ := h
  refine ⟨placed.map fun entry => (place :: entry.1, entry.2), by simp [Function.comp_def], ?_, ?_⟩
  · exact List.pairwise_map.mpr (ordered.imp .cons)
  · intro path value
    rw [List.mem_map]
    constructor
    · rintro ⟨⟨rest, found⟩, listed, he⟩
      obtain ⟨rfl, rfl⟩ := Prod.mk.inj he
      exact ⟨rest, rfl, (complete rest found).mp listed⟩
    · rintro ⟨rest, rfl, there⟩
      exact ⟨(rest, value), (complete rest value).mpr there, rfl⟩

theorem InOrder.cons (h : InOrder stands values) (below : ∀ value, ¬ stands [] value) (value : α) :
    InOrder (fun path found => (path = [] ∧ found = value) ∨ stands path found)
      (value :: values) := by
  obtain ⟨placed, rfl, ordered, complete⟩ := h
  refine ⟨([], value) :: placed, rfl, List.pairwise_cons.mpr ⟨?_, ordered⟩, fun path found => ?_⟩
  · rintro ⟨path, found⟩ listed
    cases path with
    | nil => exact absurd ((complete [] found).mp listed) (below found)
    | cons place path => exact .nil
  · rw [List.mem_cons, complete, Prod.mk.injEq]

theorem InOrder.filterMap (h : InOrder stands values) (f : α → Option β) :
    InOrder (fun path found => ∃ value, stands path value ∧ f value = some found)
      (values.filterMap f) := by
  obtain ⟨placed, rfl, ordered, complete⟩ := h
  refine ⟨placed.filterMap fun entry => (f entry.2).map (entry.1, ·), ?_, ?_, fun path found => ?_⟩
  · simp [List.map_filterMap, List.filterMap_map, Function.comp_def]
  · refine ordered.filterMap _ fun a b before x hx y hy => ?_
    obtain ⟨_, -, rfl⟩ := Option.map_eq_some_iff.mp hx
    obtain ⟨_, -, rfl⟩ := Option.map_eq_some_iff.mp hy
    exact before
  · rw [List.mem_filterMap]
    constructor
    · rintro ⟨⟨path, value⟩, listed, kept⟩
      obtain ⟨found', same, he⟩ := Option.map_eq_some_iff.mp kept
      obtain ⟨rfl, rfl⟩ := Prod.mk.inj he
      exact ⟨value, (complete _ value).mp listed, same⟩
    · rintro ⟨value, there, kept⟩
      exact ⟨(path, value), (complete path value).mpr there, by rw [kept]; rfl⟩

/-- What stands below several nodes, one behind the other. -/
theorem inOrder_flatMap {children : List β} {stands : β → List Nat → α → Prop} {values : β → List α}
    (each : ∀ child ∈ children, InOrder (stands child) (values child)) :
    InOrder (fun path value => ∃ place child rest,
      path = place :: rest ∧ children[place]? = some child ∧ stands child rest value)
      (children.flatMap values) := by
  choose! placed here ordered complete using fun child (hc : child ∈ children) => (each child hc)
  have listed {child : β} {place : Nat} (hm : (child, place) ∈ children.zipIdx) :
      children[place]? = some child := List.mem_zipIdx_iff_getElem?.mp hm
  refine ⟨children.zipIdx.flatMap fun entry =>
    (placed entry.1).map fun found => (entry.2 :: found.1, found.2), ?_, ?_, ?_⟩
  · have same : ∀ entry ∈ children.zipIdx, (((placed entry.1).map fun found =>
        (entry.2 :: found.1, found.2)).map Prod.snd) = values entry.1 := by
      rintro ⟨child, place⟩ hm
      rw [List.map_map, ← here child (List.mem_of_getElem? (listed hm))]
      rfl
    rw [List.map_flatMap, List.flatMap_congr same, ← List.flatMap_map, List.zipIdx_map_fst]
  · rw [List.pairwise_flatMap]
    constructor
    · rintro ⟨child, place⟩ hm
      exact List.pairwise_map.mpr ((ordered child (List.mem_of_getElem? (listed hm))).imp .cons)
    · have places : children.zipIdx.Pairwise fun a b => a.2 < b.2 := by
        refine List.pairwise_map.mp ?_
        rw [List.zipIdx_map_snd]
        exact List.pairwise_lt_range' 1
      refine places.imp fun before x hx y hy => ?_
      obtain ⟨_, -, rfl⟩ := List.mem_map.mp hx
      obtain ⟨_, -, rfl⟩ := List.mem_map.mp hy
      exact .rel before
  · intro path value
    rw [List.mem_flatMap]
    constructor
    · rintro ⟨⟨child, place⟩, hm, found⟩
      obtain ⟨⟨rest, value⟩, listed', he⟩ := List.mem_map.mp found
      obtain ⟨rfl, rfl⟩ := Prod.mk.inj he
      exact ⟨place, child, rest, rfl, listed hm,
        (complete child (List.mem_of_getElem? (listed hm)) rest value).mp listed'⟩
    · rintro ⟨place, child, rest, rfl, found, there⟩
      have listed' := (complete child (List.mem_of_getElem? found) rest value).mpr there
      exact ⟨(child, place), List.mem_zipIdx_iff_getElem?.mpr found,
        List.mem_map.mpr ⟨(rest, value), listed', rfl⟩⟩

end Handoff.Compiler
