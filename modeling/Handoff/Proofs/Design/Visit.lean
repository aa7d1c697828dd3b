import Handoff.Design.Node
import Mathlib.Data.List.Nodup

/-! # Visiting a tree with a stack

A tree is visited with a stack: the value on top is taken, and its children are put in its place,
the first one uppermost. The values come in the order in which a recursion reaches them, each value
before those below it, and every stack of such trees is emptied. A node of a design is found by its
path, the places among the children on the way to it, and a walk passes every path once.
-/

namespace Handoff

variable {α : Type} {children walk : α → List α} {stack visited others : List α}

/-- The values that are taken from a stack until it is empty, in the order in which they are
taken. -/
inductive Visits (children : α → List α) : List α → List α → Prop
  | done : Visits children [] []
  | next {value : α} {stack visited : List α} : Visits children (children value ++ stack) visited →
    Visits children (value :: stack) (value :: visited)

theorem Visits.unique (h : Visits children stack visited) (h' : Visits children stack others) :
    visited = others := by
  induction h generalizing others with
  | done => cases h'; rfl
  | next _ ih =>
    cases h' with
    | next behind => rw [ih behind]

theorem visits_flatMap {P : α → Prop}
    (unfolds : ∀ value, P value → walk value = value :: (children value).flatMap walk)
    (closed : ∀ value, ∀ child ∈ children value, P child) (held : ∀ value ∈ stack, P value) :
    Visits children stack (stack.flatMap walk) := by
  -- each step takes one value off what is still to be visited
  induction size : (stack.flatMap walk).length using Nat.strongRecOn generalizing stack with
  | _ size ih =>
    cases stack with
    | nil => exact .done
    | cons value stack =>
      obtain ⟨own, rest⟩ := List.forall_mem_cons.mp held
      have taken :
          (value :: stack).flatMap walk = value :: (children value ++ stack).flatMap walk := by
        rw [List.flatMap_cons, unfolds value own, List.cons_append, List.flatMap_append]
      rw [taken] at size ⊢
      exact .next (ih _ (by simp [← size]) (List.forall_mem_append.mpr ⟨closed value, rest⟩) rfl)

theorem Node.visits_iff {root : Node} {visited : List Node} :
    Visits Node.children [root] visited ↔ visited = root.walk := by
  have unfolds (node : Node) (_ : True) : node.walk = node :: node.children.flatMap walk := by
    rw [walk_eq, walkAll_eq_flatMap]
  have visit : Visits Node.children [root] root.walk := by
    simpa using visits_flatMap unfolds (fun _ _ _ => trivial) fun node (_ : node ∈ [root]) =>
      trivial
  exact ⟨fun h => h.unique visit, fun h => h ▸ visit⟩

/-! ## Places of nodes -/

namespace Node

variable {node target : Node} {path : List Nat}

/-- The path leads from a node to itself or to a node below it. -/
inductive Leads : List Nat → Node → Node → Prop
  | here (node : Node) : Leads [] node node
  | child {node child target : Node} {place : Nat} {path : List Nat} :
    node.children[place]? = some child → Leads path child target → Leads (place :: path) node target

mutual

/-- A node and everything below it with the paths that lead there, in the order of the walk. -/
def placed : Node → List (List Nat × Node)
  | node@(mk _ _ _ _ _ _ _ _ _ children) => ([], node) :: placedAll 0 children
termination_by structural node => node

def placedAll : Nat → List Node → List (List Nat × Node)
  | _, [] => []
  | place, node :: rest =>
    (node.placed.map fun entry => (place :: entry.1, entry.2)) ++ placedAll (place + 1) rest
termination_by structural _ nodes => nodes

end

theorem placed_eq (node : Node) : node.placed = ([], node) :: placedAll 0 node.children := by
  cases node; rfl

mutual

theorem map_snd_placed (node : Node) : node.placed.map Prod.snd = node.walk := by
  cases node with
  | mk id name kind typeName box fills strokes visible content children =>
    rw [placed, walk, List.map_cons, map_snd_placedAll 0 children]
termination_by structural node

theorem map_snd_placedAll (place : Nat) (nodes : List Node) :
    (placedAll place nodes).map Prod.snd = walkAll nodes := by
  cases nodes with
  | nil => rfl
  | cons node rest =>
    rw [placedAll, walkAll, List.map_append, map_snd_placedAll (place + 1) rest, List.map_map]
    exact congrArg (· ++ walkAll rest) (map_snd_placed node)
termination_by structural nodes

end

variable {nodes : List Node} {place start : Nat}

theorem nil_not_mem_placedAll (start : Nat) (nodes : List Node) (target : Node) :
    ([], target) ∉ placedAll start nodes := by
  induction nodes generalizing start with
  | nil => exact List.not_mem_nil
  | cons node rest ih =>
    rw [placedAll, List.mem_append, List.mem_map, not_or]
    exact ⟨(by rintro ⟨_, -, he⟩; cases he), ih (start + 1)⟩

theorem cons_mem_placedAll_iff : (place :: path, target) ∈ placedAll start nodes ↔
    ∃ i child, place = start + i ∧ nodes[i]? = some child ∧ (path, target) ∈ child.placed := by
  induction nodes generalizing start with
  | nil => simp [placedAll]
  | cons node rest ih =>
    rw [placedAll, List.mem_append, ih, List.mem_map]
    constructor
    · rintro (⟨entry, hm, he⟩ | ⟨i, child, rfl, found, hm⟩)
      · cases he
        exact ⟨0, node, rfl, rfl, hm⟩
      · exact ⟨i + 1, child, by omega, found, hm⟩
    · rintro ⟨i, child, rfl, found, hm⟩
      cases i with
      | zero =>
        cases found
        exact .inl ⟨(path, target), hm, rfl⟩
      | succ i => exact .inr ⟨i, child, by omega, found, hm⟩

theorem mem_placed_iff : (path, target) ∈ node.placed ↔ Leads path node target := by
  induction path generalizing node with
  | nil =>
    rw [placed_eq, List.mem_cons, or_iff_left (nil_not_mem_placedAll 0 _ target)]
    constructor
    · intro he
      cases he
      exact .here _
    · intro h
      cases h
      rfl
  | cons place path ih =>
    have apart : (place :: path, target) ≠ ([], node) := by simp
    rw [placed_eq, List.mem_cons, or_iff_right apart, cons_mem_placedAll_iff]
    constructor
    · rintro ⟨i, child, rfl, found, hm⟩
      rw [Nat.zero_add]
      exact .child found (ih.mp hm)
    · intro h
      cases h with
      | child found behind => exact ⟨place, _, (Nat.zero_add place).symm, found, ih.mpr behind⟩

mutual

theorem nodup_placed (node : Node) : (node.placed.map Prod.fst).Nodup := by
  cases node with
  | mk id name kind typeName box fills strokes visible content children =>
    rw [placed, List.map_cons, List.nodup_cons]
    refine ⟨fun hm => ?_, nodup_placedAll 0 children⟩
    obtain ⟨⟨path, target⟩, listed, rfl⟩ := List.mem_map.mp hm
    exact nil_not_mem_placedAll 0 children target listed
termination_by structural node

theorem nodup_placedAll (start : Nat) (nodes : List Node) :
    ((placedAll start nodes).map Prod.fst).Nodup := by
  cases nodes with
  | nil => exact .nil
  | cons node rest =>
    have first : ((node.placed.map Prod.fst).map (start :: ·)).Nodup :=
      (nodup_placed node).map fun _ _ he => (List.cons.inj he).2
    rw [List.map_map] at first
    rw [placedAll, List.map_append, List.map_map]
    refine List.nodup_append'.mpr ⟨first, nodup_placedAll (start + 1) rest, fun path hm hr => ?_⟩
    -- the paths into the rest start with later places
    obtain ⟨entry, -, rfl⟩ := List.mem_map.mp hm
    obtain ⟨⟨path, target⟩, listed, he⟩ := List.mem_map.mp hr
    obtain rfl : path = start :: entry.1 := he
    obtain ⟨i, -, later, -⟩ := cons_mem_placedAll_iff.mp listed
    omega
termination_by structural nodes

end

theorem walk_places (node : Node) : ∃ places : List (List Nat), places.Nodup ∧
    (∀ path, path ∈ places ↔ ∃ target, Leads path node target) ∧
    node.walk.length = places.length := by
  refine ⟨node.placed.map Prod.fst, nodup_placed node, fun path => ?_, ?_⟩
  · simp only [List.mem_map, Prod.exists, exists_and_right, exists_eq_right, mem_placed_iff]
  · rw [← map_snd_placed, List.length_map, List.length_map]

theorem mem_walk_iff : target ∈ node.walk ↔ ∃ path, Leads path node target := by
  rw [← map_snd_placed, List.mem_map]
  simp only [Prod.exists, exists_eq_right, mem_placed_iff]

end Node

end Handoff
