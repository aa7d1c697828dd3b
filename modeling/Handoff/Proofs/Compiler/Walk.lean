import Handoff.Proofs.Compiler.Place
import Handoff.Proofs.Design.Visit
import Mathlib.Data.List.Basic

/-! # The diagnostics of a syntax tree

The nodes of a tree are visited in document order, except for those below an unreadable node. Each
tells what is wrong with itself, by what the parser says of it or by its kind, and the names that
are declared again come behind. The sorted list has all of these in the order of the source, and
those at one place in the order in which they were found.
-/

namespace Handoff.Compiler

variable {lines : List (List Char)} {tree node element closing : SyntaxTree} {name : String}
  {above : Option SyntaxTree}

/-! ## The nodes that are visited -/

namespace SyntaxTree

def readableChildren (tree : SyntaxTree) : List SyntaxTree :=
  if tree.info.unreadable then [] else tree.children

mutual

def visited : Option SyntaxTree → SyntaxTree → List (Option SyntaxTree × SyntaxTree)
  | above, tree@(.node info children) =>
    (above, tree) :: if info.unreadable then [] else visitedAll tree children
termination_by structural _ tree => tree

def visitedAll : SyntaxTree → List SyntaxTree → List (Option SyntaxTree × SyntaxTree)
  | _, [] => []
  | above, tree :: rest => visited (some above) tree ++ visitedAll above rest
termination_by structural _ trees => trees

end

theorem visitedAll_eq_flatMap (above : SyntaxTree) (trees : List SyntaxTree) :
    visitedAll above trees = trees.flatMap (visited (some above)) := by
  induction trees with
  | nil => rfl
  | cons tree rest ih => rw [visitedAll, ih, List.flatMap_cons]

theorem visited_eq (above : Option SyntaxTree) (tree : SyntaxTree) :
    tree.visited above = (above, tree) :: tree.readableChildren.flatMap (visited (some tree)) := by
  obtain ⟨info, children⟩ := tree
  rw [visited, visitedAll_eq_flatMap]
  cases hi : info.unreadable <;> simp [readableChildren, SyntaxTree.info, SyntaxTree.children, hi]

/-- A stack visits the same nodes in the same order. -/
theorem visits_visited (tree : SyntaxTree) :
    Visits readableChildren [tree] ((tree.visited none).map Prod.snd) := by
  have alike (above : Option SyntaxTree) (tree : SyntaxTree) :
      (tree.visited above).map Prod.snd = (tree.visited none).map Prod.snd := by
    rw [visited_eq, visited_eq, List.map_cons, List.map_cons]
  have unfolds (tree : SyntaxTree) (_ : True) : (tree.visited none).map Prod.snd =
      tree :: tree.readableChildren.flatMap fun child => (child.visited none).map Prod.snd := by
    rw [visited_eq, List.map_cons, List.map_flatMap]
    exact congrArg _ (List.flatMap_congr fun child _ => alike _ child)
  have visit : Visits readableChildren [tree]
      ([tree].flatMap fun tree => (tree.visited none).map Prod.snd) :=
    visits_flatMap unfolds (fun _ _ _ => trivial) fun _ _ => trivial
  rwa [List.flatMap_singleton] at visit

/-- A path leads to a node through readable ones, the last of which is the one right above it. -/
def Reached (above : Option SyntaxTree) (tree : SyntaxTree) (path : List Nat)
    (entry : Option SyntaxTree × SyntaxTree) : Prop :=
  tree.node? path = some entry.2 ∧ (∀ passed ∈ tree.passed path, passed.info.unreadable = false) ∧
    entry.1 = (tree.passed path).getLast?.or above

variable {place : Nat} {path : List Nat} {entry : Option SyntaxTree × SyntaxTree}

theorem reached_nil_iff : Reached above tree [] entry ↔ entry = (above, tree) := by
  constructor
  · rintro ⟨there, -, parent⟩
    exact Prod.ext parent (Option.some.inj there).symm
  · rintro rfl
    exact ⟨rfl, fun _ none => absurd none List.not_mem_nil, rfl⟩

theorem reached_cons_iff : Reached above tree (place :: path) entry ↔ tree.info.unreadable = false ∧
    ∃ child, tree.children[place]? = some child ∧ Reached (some tree) child path entry := by
  constructor
  · rintro ⟨there, readable, parent⟩
    obtain ⟨child, found, there⟩ := node?_cons_eq_some_iff.mp there
    rw [passed_cons found] at readable parent
    obtain ⟨own, readable⟩ := List.forall_mem_cons.mp readable
    refine ⟨own, child, found, there, readable, ?_⟩
    rw [parent, List.getLast?_cons]
    cases (child.passed path).getLast? <;> rfl
  · rintro ⟨own, child, found, there, readable, parent⟩
    refine ⟨node?_cons_eq_some_iff.mpr ⟨child, found, there⟩, ?_, ?_⟩
    · rw [passed_cons found]
      exact List.forall_mem_cons.mpr ⟨own, readable⟩
    · rw [passed_cons found, parent, List.getLast?_cons]
      cases (child.passed path).getLast? <;> rfl

theorem inOrder_visited (tree : SyntaxTree) (above : Option SyntaxTree) :
    InOrder (Reached above tree) (tree.visited above) := by
  induction tree using SyntaxTree.induction generalizing above with
  | step tree ih =>
    rw [visited_eq]
    have below : InOrder (fun path entry => ∃ place child rest, path = place :: rest ∧
        tree.readableChildren[place]? = some child ∧ Reached (some tree) child rest entry)
        (tree.readableChildren.flatMap (visited (some tree))) := by
      refine inOrder_flatMap fun child hm => ih child ?_ (some tree)
      unfold readableChildren at hm
      split at hm
      · cases hm
      · exact hm
    refine (below.cons (by rintro _ ⟨_, _, _, ⟨⟩, -⟩) (above, tree)).congr fun path entry => ?_
    cases path with
    | nil => simp [reached_nil_iff]
    | cons place path =>
      rw [reached_cons_iff, or_iff_right (by simp)]
      constructor
      · rintro ⟨_, child, _, he, found, reached⟩
        obtain ⟨rfl, rfl⟩ := List.cons.inj he
        unfold readableChildren at found
        split at found
        · cases found
        · rename_i readable
          exact ⟨Bool.eq_false_iff.mpr readable, child, found, reached⟩
      · rintro ⟨readable, child, found, reached⟩
        refine ⟨place, child, path, rfl, ?_, reached⟩
        rwa [readableChildren, readable, if_neg Bool.false_ne_true]

end SyntaxTree

/-! ## What a node tells -/

/-- The closing tag at the end of an element names another element than the opening tag at its
beginning, which has a name. -/
def ClosesOther (element closing : SyntaxTree) (name : String) : Prop :=
  ∃ opening other, element.children.head? = some opening ∧
  element.children.getLast? = some closing ∧
    opening.kind = "jsx_opening_element" ∧ closing.kind = "jsx_closing_element" ∧
    (opening.child? "name").bind SyntaxTree.text = some name ∧
    (closing.child? "name").bind SyntaxTree.text = some other ∧ name ≠ other

theorem mismatchedClosing?_eq_some_iff :
    mismatchedClosing? element = some (closing, name) ↔ ClosesOther element closing name := by
  unfold mismatchedClosing? ClosesOther
  split
  · rename_i opening second rest children
    have last : element.children.getLast? = some ((second :: rest).getLastD second) := by
      rw [children, List.getLast?_cons_cons, List.getLastD_eq_getLast?, List.getLast?_cons,
        Option.getD_some]
    rw [last, children, List.head?_cons]
    generalize (second :: rest).getLastD second = last
    dsimp only
    constructor
    · intro h
      split at h
      · rename_i tags
        split at h
        · rename_i own other named closed
          split at h
          · cases h
          · rename_i differ
            cases h
            simp only [Bool.and_eq_true, beq_iff_eq] at tags
            exact ⟨opening, other, rfl, rfl, tags.1, tags.2, named, closed, by simpa using differ⟩
        · cases h
      · cases h
    · rintro ⟨_, other, he, hl, opens, closes, named, closed, differ⟩
      obtain rfl := Option.some.inj he
      obtain rfl := Option.some.inj hl
      simp [opens, closes, named, closed, differ]
  · rename_i few
    refine iff_of_false (by simp) ?_
    rintro ⟨opening, _, first, last, opens, closes, -⟩
    -- the only child would be both tags
    match children : element.children with
    | [] => simp [children] at first
    | [only] =>
      simp only [children, List.head?_cons, List.getLast?_singleton,
        Option.some.injEq] at first last
      rw [← last, first, opens] at closes
      exact absurd closes (by decide)
    | first :: second :: rest => exact few first second rest children

/-- What is told of a node itself. Of a node that the parser made up or could not read, nothing else
is. -/
structure Reports (lines : List (List Char)) (above : Option SyntaxTree) (node : SyntaxTree)
    (told : List Diagnostic) : Prop where
  missing : node.info.missing = true → told = [
    if node.info.named then diagnosticAt lines node 1003 "Identifier expected."
    else diagnosticAt lines node 1005 (s!"'{node.kind}' expected.")]
  unreadable : node.info.missing = false → node.info.unreadable = true →
    ((above = none ∨ above.map SyntaxTree.kind = some "program") →
      told = [diagnosticAt lines node 1128 "Declaration or statement expected."]) ∧
    (¬ (above = none ∨ above.map SyntaxTree.kind = some "program") →
      told = [diagnosticAt lines node 1109 "Expression expected."])
  element : node.info.missing = false → node.info.unreadable = false → node.kind = "jsx_element" →
    (∀ closing name, ClosesOther node closing name → told = [diagnosticAt lines closing 17002
      (s!"Expected corresponding JSX closing tag for '{name}'.")]) ∧
    ((∀ closing name, ¬ ClosesOther node closing name) → told = [])
  tag : node.info.missing = false → node.info.unreadable = false →
    node.kind = "jsx_opening_element" ∨ node.kind = "jsx_self_closing_element" →
    told = (duplicateAttributes node).map fun entry => diagnosticAt lines entry 17001
      "JSX elements cannot have multiple attributes with the same name."
  other : node.info.missing = false → node.info.unreadable = false →
    node.kind ∉ ["jsx_element", "jsx_opening_element", "jsx_self_closing_element"] → told = []

theorem reports_checkNode (lines : List (List Char)) (above : Option SyntaxTree)
    (node : SyntaxTree) :
    Reports lines above node (checkNode lines (above.map SyntaxTree.kind) node) where
  missing h := by
    rw [checkNode, if_pos h]
    split <;> rfl
  unreadable made h := by
    rw [checkNode, made, if_neg Bool.false_ne_true, if_pos h]
    cases above with
    | none => simp
    | some above => by_cases top : above.kind = "program" <;> simp [top]
  element made read kind := by
    have own : checkNode lines (above.map SyntaxTree.kind) node =
        ((mismatchedClosing? node).map fun found => diagnosticAt lines found.1 17002
          (s!"Expected corresponding JSX closing tag for '{found.2}'.")).toList := by
      simp [checkNode, made, read, kind]
    rw [own]
    refine ⟨fun closing name closes => ?_, fun matching => ?_⟩
    · rw [mismatchedClosing?_eq_some_iff.mpr closes]
      rfl
    · cases found : mismatchedClosing? node with
      | none => rfl
      | some pair => exact absurd (mismatchedClosing?_eq_some_iff.mp found) (matching pair.1 pair.2)
  tag made read kind := by
    rcases kind with kind | kind <;> simp [checkNode, made, read, kind]
  other made read kind := by
    simp only [List.mem_cons, List.not_mem_nil, or_false, not_or] at kind
    simp [checkNode, made, read, kind]

theorem checkTree_eq (lines : List (List Char)) (above : Option SyntaxTree) (tree : SyntaxTree) :
    checkTree lines (above.map SyntaxTree.kind) tree =
      (tree.visited above).flatMap fun entry =>
        checkNode lines (entry.1.map SyntaxTree.kind) entry.2 := by
  induction tree using SyntaxTree.induction generalizing above with
  | step tree ih =>
    have all (kind : Option String) (trees : List SyntaxTree) :
        checkTrees lines kind trees = trees.flatMap (checkTree lines kind) := by
      induction trees with
      | nil => rfl
      | cons tree rest ih => rw [checkTrees, ih, List.flatMap_cons]
    obtain ⟨info, children⟩ := tree
    rw [SyntaxTree.visited_eq, List.flatMap_cons, List.flatMap_assoc, checkTree, all]
    refine congrArg _ ?_
    cases hi : info.unreadable with
    | true => simp [SyntaxTree.readableChildren, SyntaxTree.info, hi]
    | false =>
      simp only [SyntaxTree.readableChildren, SyntaxTree.info, hi, Bool.false_eq_true, if_false]
      exact List.flatMap_congr fun child below => ih child below (some (.node info children))

/-! ## The order of the diagnostics -/

/-- A list in the order of the places in a source, where what has the same place keeps its order. -/
structure IsStableSort (found sorted : List Diagnostic) : Prop where
  perm : sorted.Perm found
  ordered : sorted.Pairwise fun a b => a.line < b.line ∨ a.line = b.line ∧ a.character ≤ b.character
  stable : ∀ line character, sorted.filter (fun d => d.line = line ∧ d.character = character) =
    found.filter fun d => d.line = line ∧ d.character = character

theorem standsBefore_iff {a b : Diagnostic} :
    standsBefore a b = true ↔ a.line < b.line ∨ a.line = b.line ∧ a.character ≤ b.character := by
  simp [standsBefore]

theorem isStableSort_mergeSort (found : List Diagnostic) :
    IsStableSort found (found.mergeSort standsBefore) := by
  have trans (a b c : Diagnostic) (h : standsBefore a b = true) (h' : standsBefore b c = true) :
      standsBefore a c = true := by
    rw [standsBefore_iff] at *
    omega
  have total (a b : Diagnostic) : (standsBefore a b || standsBefore b a) = true := by
    rw [Bool.or_eq_true, standsBefore_iff, standsBefore_iff]
    omega
  have perm : (found.mergeSort standsBefore).Perm found := List.mergeSort_perm found standsBefore
  refine ⟨perm, (List.pairwise_mergeSort trans total found).imp standsBefore_iff.mp,
    fun line character => ?_⟩
  -- what has one place is in order already, so it is a part of the sorted list
  have level : (found.filter fun d => d.line = line ∧ d.character = character).Pairwise
      fun a b => standsBefore a b = true := by
    refine List.pairwise_of_forall_mem_list fun a ha b hb => standsBefore_iff.mpr ?_
    have ha := of_decide_eq_true (List.mem_filter.mp ha).2
    have hb := of_decide_eq_true (List.mem_filter.mp hb).2
    omega
  have kept := (List.sublist_mergeSort trans total level List.filter_sublist).filter
    fun d => decide (d.line = line ∧ d.character = character)
  rw [List.filter_filter] at kept
  simp only [Bool.and_self] at kept
  exact (kept.eq_of_length (perm.filter _).length_eq.symm).symm

theorem isStableSort_treeDiagnostics (source : List Char) (tree : SyntaxTree) :
    IsStableSort ((tree.visited none).flatMap
        (fun entry => checkNode (Text.lines source) (entry.1.map SyntaxTree.kind) entry.2) ++
      (redeclaredNames tree).map (redeclaration (Text.lines source)))
        (treeDiagnostics source tree) := by
  rw [← checkTree_eq]
  exact isStableSort_mergeSort _

/-- The diagnostics of a source are a stable sort of what the nodes tell and of the names that are
declared again. The nodes are those that paths reach through readable nodes, each path once and in
document order, and a stack visits the same ones. -/
theorem treeDiagnostics_stable (source : List Char) (tree : SyntaxTree) :
    ∃ (visited : List (Option SyntaxTree × SyntaxTree))
        (told : Option SyntaxTree × SyntaxTree → List Diagnostic),
      InOrder (fun path entry => tree.node? path = some entry.2 ∧
        (∀ passed ∈ tree.passed path, passed.info.unreadable = false) ∧
        entry.1 = (tree.passed path).getLast?) visited ∧
      Visits SyntaxTree.readableChildren [tree] (visited.map Prod.snd) ∧
      (∀ entry ∈ visited, Reports (Text.lines source) entry.1 entry.2 (told entry)) ∧
      IsStableSort
        (visited.flatMap told ++ (redeclaredNames tree).map (redeclaration (Text.lines source)))
        (treeDiagnostics source tree) := by
  refine ⟨tree.visited none, fun entry => checkNode (Text.lines source)
    (entry.1.map SyntaxTree.kind) entry.2,
    (SyntaxTree.inOrder_visited tree none).congr fun path entry => ?_, tree.visits_visited,
    fun entry _ => reports_checkNode _ entry.1 entry.2, isStableSort_treeDiagnostics source tree⟩
  rw [SyntaxTree.Reached, Option.or_none]

end Handoff.Compiler
