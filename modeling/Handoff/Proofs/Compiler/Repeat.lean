import Handoff.Proofs.Compiler.Walk
import Mathlib.Data.List.Lex

/-! # Names that are given twice

A program declares names at its top, by its own statements and by those that it exports, and a tag
gives names to its attributes. Names and attributes are gone through in document order with the
names that were there before, so that exactly those are told whose name stands at an earlier place,
and of a name that is given several times all but the first. A name without text is a name like any
other.
-/

namespace Handoff.Compiler

variable {α β κ : Type} {stands : List Nat → α → Prop} {values : List α} {path : List Nat}
  {place : Nat} {tree statement name child : SyntaxTree} {field : String}

/-! ## Keys that occurred before -/

section Keys

variable [BEq κ] {key : α → κ} {seen : List κ} {xs : List α} {x : α}

theorem repeatedFrom_sublist (key : α → κ) (seen : List κ) (xs : List α) :
    (repeatedFrom key seen xs).Sublist xs := by
  induction xs generalizing seen with
  | nil => exact .slnil
  | cons x xs ih =>
    rw [repeatedFrom]
    split
    · exact (ih seen).cons_cons x
    · exact (ih _).cons x

theorem repeatedFrom_map (f : β → α) (key : α → κ) (seen : List κ) (xs : List β) :
    repeatedFrom key seen (xs.map f) = (repeatedFrom (key ∘ f) seen xs).map f := by
  induction xs generalizing seen with
  | nil => rfl
  | cons x xs ih =>
    rw [List.map_cons, repeatedFrom, repeatedFrom, ih, ih, apply_ite (List.map f)]
    rfl

variable [LawfulBEq κ]

theorem repeatedFrom_congr {seen' : List κ} (same : ∀ k, k ∈ seen ↔ k ∈ seen') (xs : List α) :
    repeatedFrom key seen xs = repeatedFrom key seen' xs := by
  induction xs generalizing seen seen' with
  | nil => rfl
  | cons x xs ih =>
    have more (k : κ) : k ∈ key x :: seen ↔ k ∈ key x :: seen' := by
      rw [List.mem_cons, List.mem_cons, same]
    rw [repeatedFrom, repeatedFrom, ih same, ih more]
    simp only [List.contains_iff_mem, same]

/-- Behind the first, it does not matter if the first was repeated. -/
theorem mem_repeatedFrom_cons {z : α} : x ∈ repeatedFrom key seen (z :: xs) ↔
    (x = z ∧ key z ∈ seen) ∨ x ∈ repeatedFrom key (key z :: seen) xs := by
  rw [repeatedFrom]
  split
  · rename_i known
    rw [List.contains_iff_mem] at known
    have same (k : κ) : k ∈ seen ↔ k ∈ key z :: seen := by
      rw [List.mem_cons, or_iff_right_of_imp (by rintro rfl; exact known)]
    rw [List.mem_cons, repeatedFrom_congr same, and_iff_left known]
  · rename_i unknown
    rw [List.contains_iff_mem] at unknown
    rw [or_iff_right fun h => unknown h.2]

/-- In a list that is ordered, those are repeated whose key was seen or is the key of one before. -/
theorem mem_repeatedFrom_iff {r : α → α → Prop} (asymm : ∀ a b, r a b → ¬ r b a)
    (ordered : xs.Pairwise r) :
    x ∈ repeatedFrom key seen xs ↔ x ∈ xs ∧ (key x ∈ seen ∨ ∃ y ∈ xs, r y x ∧ key y = key x) := by
  induction xs generalizing seen with
  | nil => simp [repeatedFrom]
  | cons z xs ih =>
    obtain ⟨first, behind⟩ := List.pairwise_cons.mp ordered
    rw [mem_repeatedFrom_cons, ih behind]
    constructor
    · rintro (⟨rfl, known⟩ | ⟨hm, before⟩)
      · exact ⟨List.mem_cons_self, .inl known⟩
      · refine ⟨List.mem_cons_of_mem z hm, ?_⟩
        rcases before with before | ⟨y, hy, earlier, same⟩
        · rcases List.mem_cons.mp before with same | known
          · exact .inr ⟨z, List.mem_cons_self, first x hm, same.symm⟩
          · exact .inl known
        · exact .inr ⟨y, List.mem_cons_of_mem z hy, earlier, same⟩
    · rintro ⟨hm, before⟩
      rcases List.mem_cons.mp hm with rfl | hm
      · rcases before with known | ⟨y, hy, earlier, -⟩
        · exact .inl ⟨rfl, known⟩
        -- nothing stands before the first, not even itself
        · rcases List.mem_cons.mp hy with rfl | hy
          · exact absurd earlier (asymm _ _ earlier)
          · exact absurd earlier (asymm _ _ (first y hy))
      · refine .inr ⟨hm, ?_⟩
        rcases before with known | ⟨y, hy, earlier, same⟩
        · exact .inl (List.mem_cons_of_mem _ known)
        · rcases List.mem_cons.mp hy with rfl | hy
          · exact .inl (same ▸ List.mem_cons_self)
          · exact .inr ⟨y, hy, earlier, same⟩

theorem countP_repeatedFrom (key : α → κ) (seen : List κ) (xs : List α) (k : κ) :
    (repeatedFrom key seen xs).countP (key · == k) =
      if k ∈ seen then xs.countP (key · == k) else xs.countP (key · == k) - 1 := by
  induction xs generalizing seen with
  | nil => simp [repeatedFrom]
  | cons x xs ih =>
    rw [repeatedFrom, List.countP_cons]
    by_cases own : key x = k
    · subst own
      by_cases known : key x ∈ seen <;> simp [known, ih]
    · by_cases known : key x ∈ seen <;> simp [known, ih, own, Ne.symm own]

end Keys

/-- Of the values that stand at paths, those are told whose key stands at an earlier path, too, and
of each key all but one. -/
structure TellsRepeats [BEq κ] (stands : List Nat → α → Prop) (key : α → κ) (values told : List α) :
    Prop where
  all : InOrder stands values
  repeated : InOrder (fun path value => stands path value ∧
    ∃ earlier other, stands earlier other ∧ List.Lex (· < ·) earlier path ∧
    key other = key value) told
  count : ∀ k, told.countP (key · == k) = values.countP (key · == k) - 1

theorem InOrder.tellsRepeats [BEq κ] [LawfulBEq κ] (h : InOrder stands values) (key : α → κ) :
    TellsRepeats stands key values (repeatedFrom key [] values) := by
  refine ⟨h, ?_, fun k => by simp [countP_repeatedFrom]⟩
  obtain ⟨placed, rfl, ordered, complete⟩ := h
  have asymm (a b : List Nat × α) (before : List.Lex (· < ·) a.1 b.1) :
      ¬ List.Lex (· < ·) b.1 a.1 :=
    asymm before
  refine ⟨repeatedFrom (key ∘ Prod.snd) [] placed, (repeatedFrom_map ..).symm,
    ordered.sublist (repeatedFrom_sublist ..), fun path value => ?_⟩
  rw [mem_repeatedFrom_iff asymm ordered, complete]
  refine and_congr_right fun _ => ?_
  simp only [List.not_mem_nil, false_or, Prod.exists, complete, Function.comp_apply]

/-! ## Parts of a node -/

def IsField (tree : SyntaxTree) (field : String) (place : Nat) (child : SyntaxTree) : Prop :=
  tree.children[place]? = some child ∧ child.info.field = some field ∧
    ∀ earlier < place, ∀ other, tree.children[earlier]? = some other → other.info.field ≠ some field

theorem IsField.unique {place' : Nat} {child' : SyntaxTree} (h : IsField tree field place child)
    (h' : IsField tree field place' child') : place = place' ∧ child = child' := by
  obtain ⟨found, own, first⟩ := h
  obtain ⟨found', own', first'⟩ := h'
  rcases Nat.lt_trichotomy place place' with before | rfl | behind
  · exact absurd own (first' place before child found)
  · exact ⟨rfl, Option.some.inj (found.symm.trans found')⟩
  · exact absurd own' (first place' behind child' found')

theorem child?_eq_some_iff : tree.child? field = some child ↔
    ∃ place, IsField tree field place child := by
  simp only [SyntaxTree.child?, List.find?_eq_some_iff_getElem, beq_iff_eq, IsField,
    Bool.not_eq_true', beq_eq_false_iff_ne, List.getElem?_eq_some_iff]
  constructor
  · rintro ⟨own, place, inside, found, first⟩
    refine ⟨place, ⟨inside, found⟩, own, ?_⟩
    rintro earlier before _ ⟨-, rfl⟩
    exact first earlier before
  · rintro ⟨place, ⟨inside, found⟩, own, first⟩
    exact ⟨own, place, inside, found, fun earlier before =>
      first earlier before _ ⟨before.trans inside, rfl⟩⟩

theorem inOrder_field {stands : SyntaxTree → List Nat → α → Prop} {values : SyntaxTree → List α}
    (each : ∀ child ∈ tree.children, InOrder (stands child) (values child)) (field : String) :
    InOrder (fun path value => ∃ place child rest,
      path = place :: rest ∧ IsField tree field place child ∧ stands child rest value)
      ((tree.child? field).toList.flatMap values) := by
  cases found : tree.child? field with
  | none =>
    refine ⟨[], rfl, .nil, fun path value => iff_of_false List.not_mem_nil ?_⟩
    rintro ⟨place, child, _, -, is, -⟩
    rw [child?_eq_some_iff.mpr ⟨place, is⟩] at found
    cases found
  | some child =>
    obtain ⟨place, is⟩ := child?_eq_some_iff.mp found
    rw [Option.toList_some, List.flatMap_singleton]
    refine ((each child (List.mem_of_getElem? is.1)).below place).congr fun path value => ?_
    constructor
    · rintro ⟨rest, he, there⟩
      exact ⟨place, child, rest, he, is, there⟩
    · rintro ⟨place', child', rest, he, is', there⟩
      obtain ⟨rfl, rfl⟩ := is.unique is'
      exact ⟨rest, he, there⟩

theorem inOrder_namedChildren {stands : SyntaxTree → List Nat → α → Prop}
    {values : SyntaxTree → List α}
    (each : ∀ child ∈ tree.children, InOrder (stands child) (values child)) :
    InOrder (fun path value => ∃ place child rest, path = place :: rest ∧
      tree.children[place]? = some child ∧ child.info.named = true ∧ stands child rest value)
      (tree.namedChildren.flatMap values) := by
  have same (trees : List SyntaxTree) : (trees.filter (·.info.named)).flatMap values =
      trees.flatMap fun child => if child.info.named then values child else [] := by
    induction trees with
    | nil => rfl
    | cons child rest ih =>
      rw [List.filter_cons, List.flatMap_cons, ← ih]
      split <;> rfl
  rw [SyntaxTree.namedChildren, same]
  exact inOrder_flatMap fun child hm => (each child hm).guard _

/-! ## The names at the top -/

/-- A statement declares a name, which stands at a path below it: constants and variables with plain
names, a class, and what is declared by the statement that is exported. -/
inductive Declares : SyntaxTree → List Nat → SyntaxTree → Prop
  | binding {statement declarator name : SyntaxTree} {place field : Nat}
      (kind : statement.kind = "lexical_declaration")
      (there : statement.children[place]? = some declarator) (named : declarator.info.named = true)
      (own : declarator.kind = "variable_declarator") (given : IsField declarator "name" field name)
      (plain : name.kind = "identifier") : Declares statement [place, field] name
  | className {statement name : SyntaxTree} {place : Nat}
    (kind : statement.kind = "class_declaration")
      (given : IsField statement "name" place name) : Declares statement [place] name
  | exported {statement declaration name : SyntaxTree} {place : Nat} {path : List Nat}
      (kind : statement.kind = "export_statement")
        (given : IsField statement "declaration" place declaration)
      (declares : Declares declaration path name) : Declares statement (place :: path) name

theorem declares_lexical_iff (kind : statement.kind = "lexical_declaration") :
    Declares statement path name ↔ ∃ place declarator field, path = [place, field] ∧
      statement.children[place]? = some declarator ∧ declarator.info.named = true ∧
      declarator.kind = "variable_declarator" ∧ IsField declarator "name" field name ∧
      name.kind = "identifier" := by
  constructor
  · intro h
    cases h with
    | binding _ there named own given plain => exact ⟨_, _, _, rfl, there, named, own, given, plain⟩
    | className other => exact absurd (kind.symm.trans other) (by decide)
    | exported other => exact absurd (kind.symm.trans other) (by decide)
  · rintro ⟨place, declarator, field, rfl, there, named, own, given, plain⟩
    exact .binding kind there named own given plain

theorem declares_class_iff (kind : statement.kind = "class_declaration") :
    Declares statement path name ↔ ∃ place, path = [place] ∧
    IsField statement "name" place name := by
  constructor
  · intro h
    cases h with
    | binding other => exact absurd (kind.symm.trans other) (by decide)
    | className _ given => exact ⟨_, rfl, given⟩
    | exported other => exact absurd (kind.symm.trans other) (by decide)
  · rintro ⟨place, rfl, given⟩
    exact .className kind given

theorem declares_export_iff (kind : statement.kind = "export_statement") :
    Declares statement path name ↔ ∃ place declaration rest, path = place :: rest ∧
      IsField statement "declaration" place declaration ∧ Declares declaration rest name := by
  constructor
  · intro h
    cases h with
    | binding other => exact absurd (kind.symm.trans other) (by decide)
    | className other => exact absurd (kind.symm.trans other) (by decide)
    | exported _ given declares => exact ⟨_, _, _, rfl, given, declares⟩
  · rintro ⟨place, declaration, rest, rfl, given, declares⟩
    exact .exported kind given declares

theorem lexicalNames_eq (statement : SyntaxTree) :
    lexicalNames statement = statement.namedChildren.flatMap fun declarator =>
      if declarator.kind = "variable_declarator" then
        (declarator.child? "name").toList.flatMap fun name =>
          if name.kind = "identifier" then [name] else []
      else [] := by
  rw [lexicalNames, List.filterMap_eq_flatMap_toList]
  refine List.flatMap_congr fun declarator _ => ?_
  by_cases own : declarator.kind = "variable_declarator"
  · cases found : declarator.child? "name" with
    | none => simp [own]
    | some name => by_cases plain : name.kind = "identifier" <;> simp [own, plain]
  · simp [own]

theorem exportedNames_eq (trees : List SyntaxTree) : exportedNames trees =
    (trees.find? (·.info.field == some "declaration")).toList.flatMap declaredNames := by
  induction trees with
  | nil => rfl
  | cons tree rest ih =>
    rw [exportedNames, List.find?_cons]
    split
    · rename_i own
      rw [own, Option.toList_some, List.flatMap_singleton]
    · rename_i other
      rw [Bool.eq_false_iff.mpr other, ih]

theorem declaredNames_eq (statement : SyntaxTree) : declaredNames statement =
    if statement.kind = "export_statement" then
      (statement.child? "declaration").toList.flatMap declaredNames
    else if statement.kind = "lexical_declaration" then lexicalNames statement
    else if statement.kind = "class_declaration" then
      (statement.child? "name").toList.flatMap fun name => [name]
    else [] := by
  obtain ⟨info, children⟩ := statement
  simp [declaredNames, exportedNames_eq, SyntaxTree.kind, SyntaxTree.info, SyntaxTree.child?,
    SyntaxTree.children]

theorem inOrder_lexicalNames (kind : statement.kind = "lexical_declaration") :
    InOrder (Declares statement) (lexicalNames statement) := by
  rw [lexicalNames_eq]
  refine (inOrder_namedChildren fun declarator _ => InOrder.guard (inOrder_field (fun name _ =>
    InOrder.guard (inOrder_toList (some name)) _) "name") _).congr fun path name => ?_
  rw [declares_lexical_iff kind]
  constructor
  · rintro ⟨place, declarator, _, rfl, there, named, own, field, name', _, rfl, given,
      plain, rfl, he⟩
    obtain rfl := Option.some.inj he
    exact ⟨place, declarator, field, rfl, there, named, own, given, plain⟩
  · rintro ⟨place, declarator, field, rfl, there, named, own, given, plain⟩
    exact ⟨place, declarator, _, rfl, there, named, own, field, name, _, rfl, given,
      plain, rfl, rfl⟩

theorem inOrder_declaredNames (statement : SyntaxTree) :
    InOrder (Declares statement) (declaredNames statement) := by
  induction statement using SyntaxTree.induction with
  | step statement ih =>
    rw [declaredNames_eq]
    split
    · rename_i exports
      exact (inOrder_field ih "declaration").congr fun path name =>
        (declares_export_iff exports).symm
    · rename_i exportsNot
      split
      · rename_i lexical
        exact inOrder_lexicalNames lexical
      · rename_i lexicalNot
        split
        · rename_i ofClass
          refine (inOrder_field (fun name _ => inOrder_toList (some name)) "name").congr ?_
          intro path name
          rw [declares_class_iff ofClass]
          simp [eq_comm]
        · rename_i classNot
          refine ⟨[], rfl, .nil, fun path name => iff_of_false List.not_mem_nil fun h => ?_⟩
          cases h with
          | binding kind => exact lexicalNot kind
          | className kind => exact classNot kind
          | exported kind => exact exportsNot kind

/-- A name is declared at the top of a program, by a statement right below its root. -/
def DeclaredIn (program : SyntaxTree) (path : List Nat) (name : SyntaxTree) : Prop :=
  ∃ place statement rest, path = place :: rest ∧ program.children[place]? = some statement ∧
    statement.info.named = true ∧ Declares statement rest name

theorem inOrder_topNames (program : SyntaxTree) : InOrder (DeclaredIn program) (topNames program) :=
  inOrder_namedChildren fun statement _ => inOrder_declaredNames statement

/-! ## The attributes of tags -/

/-- An attribute stands right below a tag; its name is the text of the first named node below it. -/
def AttributeIn (element : SyntaxTree) (path : List Nat) (entry : SyntaxTree × Option String) :
    Prop :=
  ∃ place name, path = [place] ∧ element.children[place]? = some entry.1 ∧
    entry.1.info.named = true ∧ entry.1.kind = "jsx_attribute" ∧
    entry.1.namedChildren.head? = some name ∧ name.text = entry.2

theorem inOrder_namedAttributes (element : SyntaxTree) :
    InOrder (AttributeIn element) (namedAttributes element) := by
  rw [namedAttributes, List.filterMap_eq_flatMap_toList]
  refine (inOrder_namedChildren fun child _ => inOrder_toList _).congr fun path entry => ?_
  constructor
  · rintro ⟨place, child, _, rfl, there, named, rfl, kept⟩
    split at kept
    · rename_i kind
      obtain ⟨name, first, rfl⟩ := Option.map_eq_some_iff.mp kept
      exact ⟨place, name, rfl, there, named, beq_iff_eq.mp kind, first, rfl⟩
    · cases kept
  · obtain ⟨child, text⟩ := entry
    rintro ⟨place, name, rfl, there, named, kind, first, rfl⟩
    refine ⟨place, child, [], rfl, there, named, rfl, ?_⟩
    rw [if_pos (beq_iff_eq.mpr kind), first]
    rfl

/-- An opening or self-closing tag that the parser read and did not make up. -/
def IsTag (node : SyntaxTree) : Prop :=
  node.info.missing = false ∧ node.info.unreadable = false ∧
    (node.kind = "jsx_opening_element" ∨ node.kind = "jsx_self_closing_element")

instance (node : SyntaxTree) : Decidable (IsTag node) :=
  inferInstanceAs (Decidable (_ ∧ _ ∧ _))

def tags (tree : SyntaxTree) : List SyntaxTree :=
  (tree.visited none).filterMap fun entry => if IsTag entry.2 then some entry.2 else none

theorem inOrder_tags (tree : SyntaxTree) :
    InOrder (fun path tag => tree.node? path = some tag ∧
      (∀ passed ∈ tree.passed path, passed.info.unreadable = false) ∧ IsTag tag) (tags tree) := by
  refine ((tree.inOrder_visited none).filterMap _).congr fun path tag => ?_
  constructor
  · rintro ⟨⟨above, node⟩, ⟨there, readable, -⟩, kept⟩
    split at kept
    · rename_i is
      obtain rfl := Option.some.inj kept
      exact ⟨there, readable, is⟩
    · cases kept
  · rintro ⟨there, readable, is⟩
    exact ⟨(_, tag), ⟨there, readable, rfl⟩, if_pos is⟩

/-! ## The diagnostics -/

theorem Reports.code {lines : List (List Char)} {above : Option SyntaxTree} {node : SyntaxTree}
    {told : List Diagnostic} (h : Reports lines above node told) {diagnostic : Diagnostic}
    (hm : diagnostic ∈ told) :
    diagnostic.code ∈ [1003, 1005, 1128, 1109, 17002] ∨ IsTag node ∧ diagnostic.code = 17001 := by
  cases made : node.info.missing with
  | true =>
    rw [h.missing made, List.mem_singleton] at hm
    subst hm
    exact .inl (by split <;> simp [diagnosticAt])
  | false =>
    cases broken : node.info.unreadable with
    | true =>
      obtain ⟨top, inner⟩ := h.unreadable made broken
      by_cases place : above = none ∨ above.map SyntaxTree.kind = some "program"
      · rw [top place, List.mem_singleton] at hm
        exact .inl (by simp [hm, diagnosticAt])
      · rw [inner place, List.mem_singleton] at hm
        exact .inl (by simp [hm, diagnosticAt])
    | false =>
      by_cases kind : node.kind ∈ ["jsx_element", "jsx_opening_element", "jsx_self_closing_element"]
      · rcases List.mem_cons.mp kind with kind | kind
        · obtain ⟨differs, agrees⟩ := h.element made broken kind
          by_cases closed : ∃ closing name, ClosesOther node closing name
          · obtain ⟨closing, name, closes⟩ := closed
            rw [differs closing name closes, List.mem_singleton] at hm
            exact .inl (by simp [hm, diagnosticAt])
          · simp only [not_exists] at closed
            rw [agrees closed] at hm
            cases hm
        · replace kind : node.kind = "jsx_opening_element" ∨
            node.kind = "jsx_self_closing_element" := by
            simpa using kind
          rw [h.tag made broken kind] at hm
          obtain ⟨entry, -, rfl⟩ := List.mem_map.mp hm
          exact .inr ⟨⟨made, broken, kind⟩, rfl⟩
      · rw [h.other made broken kind] at hm
        cases hm

theorem filter_checkNode_redeclared (lines : List (List Char)) (above : Option SyntaxTree)
    (node : SyntaxTree) :
    (checkNode lines (above.map SyntaxTree.kind) node).filter (·.code == 2451) = [] := by
  refine List.filter_eq_nil_iff.mpr fun diagnostic hm redeclared => ?_
  have own := eq_of_beq redeclared
  rcases (reports_checkNode lines above node).code hm with other | ⟨-, other⟩ <;>
    rw [own] at other <;>
    exact absurd other (by decide)

theorem filter_checkNode_duplicate (lines : List (List Char)) (above : Option SyntaxTree)
    (node : SyntaxTree) :
    (checkNode lines (above.map SyntaxTree.kind) node).filter (·.code == 17001) =
      if IsTag node then (duplicateAttributes node).map fun entry => diagnosticAt lines entry 17001
        "JSX elements cannot have multiple attributes with the same name." else [] := by
  have reports := reports_checkNode lines above node
  split
  · rename_i is
    rw [reports.tag is.1 is.2.1 is.2.2, List.filter_eq_self]
    intro diagnostic hm
    obtain ⟨entry, -, rfl⟩ := List.mem_map.mp hm
    rfl
  · rename_i other
    refine List.filter_eq_nil_iff.mpr fun diagnostic hm duplicate => ?_
    rcases reports.code hm with code | ⟨is, -⟩
    · rw [eq_of_beq duplicate] at code
      exact absurd code (by decide)
    · exact other is

theorem perm_redeclared (source : List Char) (tree : SyntaxTree) :
    ((treeDiagnostics source tree).filter (·.code == 2451)).Perm
      ((redeclaredNames tree).map (redeclaration (Text.lines source))) := by
  refine ((isStableSort_treeDiagnostics source tree).perm.filter _).trans (.of_eq ?_)
  rw [List.filter_append, List.filter_flatMap]
  simp only [filter_checkNode_redeclared]
  have all : ∀ diagnostic ∈ (redeclaredNames tree).map (redeclaration (Text.lines source)),
      (diagnostic.code == 2451) = true := by
    intro diagnostic hm
    obtain ⟨name, -, rfl⟩ := List.mem_map.mp hm
    rfl
  rw [List.filter_eq_self.mpr all, List.flatMap_eq_nil_iff.mpr fun _ _ => rfl, List.nil_append]

theorem perm_duplicate (source : List Char) (tree : SyntaxTree) :
    ((treeDiagnostics source tree).filter (·.code == 17001)).Perm
      ((tags tree).flatMap fun tag => (duplicateAttributes tag).map fun entry =>
        diagnosticAt (Text.lines source) entry 17001
          "JSX elements cannot have multiple attributes with the same name.") := by
  refine ((isStableSort_treeDiagnostics source tree).perm.filter _).trans (.of_eq ?_)
  have none : ∀ diagnostic ∈ (redeclaredNames tree).map (redeclaration (Text.lines source)),
      ¬ (diagnostic.code == 17001) = true := by
    intro diagnostic hm
    obtain ⟨name, -, rfl⟩ := List.mem_map.mp hm
    simp [redeclaration, diagnosticAt]
  rw [List.filter_append, List.filter_eq_nil_iff.mpr none, List.append_nil,
    List.filter_flatMap, tags, List.filterMap_eq_flatMap_toList, List.flatMap_assoc]
  refine List.flatMap_congr fun entry _ => ?_
  rw [filter_checkNode_duplicate]
  split <;> simp

/-- A name that is declared at the top is told if it was declared at an earlier place, and so is an
attribute of a tag whose name was there before; of names that occur several times all but the first
are told. The diagnostics with the code of either kind are those of what is told, one for each. -/
theorem treeDiagnostics_repeats (source : List Char) (tree : SyntaxTree) :
    TellsRepeats (DeclaredIn tree) SyntaxTree.text (topNames tree) (redeclaredNames tree) ∧
    ((treeDiagnostics source tree).filter (·.code == 2451)).Perm
      ((redeclaredNames tree).map (redeclaration (Text.lines source))) ∧
    (∀ tag, ∃ told, TellsRepeats (AttributeIn tag) Prod.snd (namedAttributes tag) told ∧
      duplicateAttributes tag = told.map Prod.fst) ∧
    ∃ tags, InOrder (fun path tag => tree.node? path = some tag ∧
        (∀ passed ∈ tree.passed path, passed.info.unreadable = false) ∧ IsTag tag) tags ∧
      ((treeDiagnostics source tree).filter (·.code == 17001)).Perm
        (tags.flatMap fun tag => (duplicateAttributes tag).map fun entry =>
          diagnosticAt (Text.lines source) entry 17001
            "JSX elements cannot have multiple attributes with the same name.") :=
  ⟨(inOrder_topNames tree).tellsRepeats SyntaxTree.text, perm_redeclared source tree,
    fun tag => ⟨_, (inOrder_namedAttributes tag).tellsRepeats Prod.snd, rfl⟩,
    tags tree, inOrder_tags tree, perm_duplicate source tree⟩

end Handoff.Compiler
