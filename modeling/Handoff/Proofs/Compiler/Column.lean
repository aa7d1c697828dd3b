import Handoff.Proofs.Compiler.Repeat
import Handoff.Proofs.Text.Bytes

/-! # Columns

What is told of a tree is told of nodes of it, and it is the same whatever the source is, apart from
the places. A node starts behind so many bytes of a line, and the characters that these bytes spell
are counted. So a diagnostic stands where its node does, in characters of any width.
-/

namespace Handoff.Compiler

open Text

variable {tree node child : SyntaxTree} {told told' : List (List Char) → List Diagnostic}

/-! ## Characters within bytes -/

theorem charactersWithin_zero (text : List Char) : charactersWithin 0 text = 0 := by
  cases text <;> rfl

theorem charactersWithin_append (front rest : List Char) :
    charactersWithin (bytesOf front).length (front ++ rest) = front.length := by
  induction front with
  | nil => exact charactersWithin_zero rest
  | cons c front ih =>
    have size : (bytesOf (c :: front)).length = (c.utf8Size + (bytesOf front).length - 1) + 1 := by
      have positive := c.utf8Size_pos
      rw [bytesOf, List.flatMap_cons, List.length_append, String.length_utf8EncodeChar, ← bytesOf]
      omega
    have behind : c.utf8Size + (bytesOf front).length - 1 + 1 - c.utf8Size =
        (bytesOf front).length := by
      have positive := c.utf8Size_pos
      omega
    rw [size, List.cons_append, charactersWithin, behind, ih, List.length_cons]

/-- A node starts behind some characters of its line: its column is the number of their bytes. -/
structure StartsBehind (source : List Char) (info : NodeInfo) (front : List Char) : Prop where
  line : ∃ rest, (lines source)[info.row]? = some (front ++ rest)
  column : info.byteColumn = (bytesOf front).length

section StartsBehind

variable {source front : List Char} {info : NodeInfo}

theorem StartsBehind.characterOf_eq (h : StartsBehind source info front) :
    characterOf (lines source) info = front.length := by
  obtain ⟨rest, found⟩ := h.line
  rw [characterOf, h.column, List.getD_eq_getElem?_getD, found]
  exact charactersWithin_append front rest

def bytesBefore (source : List UInt8) (info : NodeInfo) : List UInt8 :=
  ((source.splitOn newlineByte).getD info.row []).take info.byteColumn

theorem StartsBehind.bytesBefore_eq (h : StartsBehind source info front) :
    bytesBefore (bytesOf source) info = bytesOf front := by
  obtain ⟨rest, found⟩ := h.line
  rw [bytesBefore, splitOn_bytesOf, h.column, List.getD_eq_getElem?_getD, List.getElem?_map, found,
    Option.map_some, Option.getD_some, bytesOf_append, List.take_left]

end StartsBehind

/-! ## Nodes of a tree -/

open SyntaxTree

theorem Declares.has {statement name : SyntaxTree} {path : List Nat}
    (h : Declares statement path name) :
    statement.Has name := by
  induction h with
  | binding _ there _ _ given =>
    exact (has_child (List.mem_of_getElem? given.1)).of_child (List.mem_of_getElem? there)
  | className _ given => exact has_child (List.mem_of_getElem? given.1)
  | exported _ given _ ih => exact ih.of_child (List.mem_of_getElem? given.1)

theorem has_of_mem_redeclaredNames (hm : node ∈ redeclaredNames tree) : tree.Has node := by
  obtain ⟨_, place, statement, rest, -, found, -, declares⟩ :=
    (inOrder_topNames tree).exists_path ((repeatedFrom_sublist ..).subset hm)
  exact declares.has.of_child (List.mem_of_getElem? found)

theorem has_of_mem_duplicateAttributes (hm : child ∈ duplicateAttributes tree) :
    tree.Has child := by
  obtain ⟨entry, repeated, rfl⟩ := List.mem_map.mp hm
  obtain ⟨_, place, name, -, found, -⟩ :=
    (inOrder_namedAttributes tree).exists_path ((repeatedFrom_sublist ..).subset repeated)
  exact has_child (List.mem_of_getElem? found)

/-! ## Remarks -/

/-- What is told of a node. -/
structure Remark where
  node : SyntaxTree
  code : Int
  message : String

namespace Remark

def diagnostic (lines : List (List Char)) (remark : Remark) : Diagnostic :=
  diagnosticAt lines remark.node remark.code remark.message

def placed (remark : Remark) (row character : Nat) : Diagnostic :=
  { line := row, character := character, code := remark.code
    message := remark.message, category := "error" }

theorem diagnostic_eq_placed {source front : List Char} {remark : Remark}
    (h : StartsBehind source remark.node.info front) :
    remark.diagnostic (lines source) = remark.placed remark.node.info.row front.length := by
  rw [diagnostic, diagnosticAt, h.characterOf_eq]
  rfl

end Remark

def treeCodes : List Int := [1003, 1005, 1128, 1109, 17002, 17001, 2451]

def TellsOf (tree : SyntaxTree) (told : List (List Char) → List Diagnostic) : Prop :=
  ∃ remarks : List Remark, (∀ remark ∈ remarks, tree.Has remark.node ∧ remark.code ∈ treeCodes) ∧
    ∀ lines, told lines = remarks.map (Remark.diagnostic lines)

namespace TellsOf

theorem nothing (tree : SyntaxTree) : TellsOf tree fun _ => [] := ⟨[], by simp, fun _ => rfl⟩

theorem single {code : Int} (message : String) (has : tree.Has node) (known : code ∈ treeCodes) :
    TellsOf tree fun lines => [diagnosticAt lines node code message] :=
  ⟨[⟨node, code, message⟩], by simpa using ⟨has, known⟩, fun _ => rfl⟩

theorem append (h : TellsOf tree told) (h' : TellsOf tree told') :
    TellsOf tree fun lines => told lines ++ told' lines := by
  obtain ⟨remarks, known, is⟩ := h
  obtain ⟨remarks', known', is'⟩ := h'
  refine ⟨remarks ++ remarks', List.forall_mem_append.mpr ⟨known, known'⟩, fun lines => ?_⟩
  rw [List.map_append, ← is, ← is']

theorem flatMap {α : Type} {values : List α} {told : List (List Char) → α → List Diagnostic}
    (each : ∀ value ∈ values, TellsOf tree fun lines => told lines value) :
    TellsOf tree fun lines => values.flatMap (told lines) := by
  induction values with
  | nil => exact nothing tree
  | cons value values ih =>
    obtain ⟨first, others⟩ := List.forall_mem_cons.mp each
    simpa only [List.flatMap_cons] using first.append (ih others)

theorem inside {outer : SyntaxTree} (h : TellsOf tree told) (has : outer.Has tree) :
    TellsOf outer told := by
  obtain ⟨remarks, known, is⟩ := h
  exact ⟨remarks, fun remark hm => ⟨has.trans (known remark hm).1, (known remark hm).2⟩, is⟩

end TellsOf

theorem tellsOf_checkNode (above : Option String) (node : SyntaxTree) :
    TellsOf node fun lines => checkNode lines above node := by
  have self : node.Has node := Has.refl node
  unfold checkNode
  split
  · split
    · exact .single _ self (by decide)
    · exact .single _ self (by decide)
  · split
    · split
      · exact .single _ self (by decide)
      · exact .single _ self (by decide)
    · split
      · cases found : mismatchedClosing? node with
        | none => exact .nothing node
        | some pair =>
          obtain ⟨closing, name⟩ := pair
          obtain ⟨_, _, _, last, _⟩ := mismatchedClosing?_eq_some_iff.mp found
          exact .single _ (has_child (List.mem_of_getLast? last)) (by decide)
      · split
        · simp only [List.map_eq_flatMap]
          exact .flatMap fun entry hm => .single _ (has_of_mem_duplicateAttributes hm) (by decide)
        · exact .nothing node

theorem tellsOf_redeclaredNames (tree : SyntaxTree) :
    TellsOf tree fun lines => (redeclaredNames tree).map (redeclaration lines) := by
  simp only [List.map_eq_flatMap]
  exact .flatMap fun name hm => .single _ (has_of_mem_redeclaredNames hm) (by decide)

theorem exists_remarks (tree : SyntaxTree) :
    ∃ remarks : List Remark, (∀ remark ∈ remarks, tree.Has remark.node ∧ remark.code ∈ treeCodes) ∧
      ∀ source, (treeDiagnostics source tree).Perm
        (remarks.map (Remark.diagnostic (lines source))) := by
  have nodes : TellsOf tree fun lines => (tree.visited none).flatMap fun entry =>
      checkNode lines (entry.1.map SyntaxTree.kind) entry.2 := by
    refine .flatMap fun entry hm => ?_
    obtain ⟨path, there, -⟩ := (tree.inOrder_visited none).exists_path hm
    exact (tellsOf_checkNode _ entry.2).inside ⟨path, there⟩
  obtain ⟨remarks, known, is⟩ := nodes.append (tellsOf_redeclaredNames tree)
  exact ⟨remarks, known, fun source =>
    (isStableSort_treeDiagnostics source tree).perm.trans (.of_eq (is (lines source)))⟩

theorem isEnvironmental_diagnostic {remark : Remark} (known : remark.code ∈ treeCodes)
    (lines : List (List Char)) : (remark.diagnostic lines).isEnvironmental = false := by
  have apart : ∀ code ∈ treeCodes, environmentalCodes.contains code = false ∧ code ≠ 2339 ∧
      code ≠ 2322 := by
    decide
  obtain ⟨listed, property, type⟩ := apart _ known
  rw [Diagnostic.isEnvironmental, Remark.diagnostic, diagnosticAt, listed, beq_false_of_ne property,
    beq_false_of_ne type]
  rfl

theorem findings_ofTree (tree : SyntaxTree) (source fileName : String) :
    findings (ofTree tree none) source fileName =
      (treeDiagnostics source.toList tree).map Diagnostic.toFinding := by
  have kept : ∀ diagnostic ∈ treeDiagnostics source.toList tree,
      (!diagnostic.isEnvironmental) = true := by
    intro diagnostic hm
    obtain ⟨remarks, known, told⟩ := exists_remarks tree
    obtain ⟨remark, listed, rfl⟩ := List.mem_map.mp ((told source.toList).subset hm)
    rw [isEnvironmental_diagnostic (known remark listed).2]
    rfl
  exact congrArg (List.map _) (List.filter_eq_self.mpr kept)

/-- For every tree there are remarks on nodes of it that are told of every source. A remark on a
node that starts behind some characters of a line is told at this line and at the number of these
characters, and the finding counts both from one; read as bytes, what stands before the node on its
line are these characters. -/
theorem treeDiagnostics_columns (tree : SyntaxTree) :
    ∃ remarks : List Remark, (∀ remark ∈ remarks, tree.Has remark.node) ∧
    ∀ source fileName : String,
      (treeDiagnostics source.toList tree).Perm
        (remarks.map (Remark.diagnostic (lines source.toList))) ∧
      (findings (ofTree tree none) source fileName).Perm
        (remarks.map (Diagnostic.toFinding ∘ Remark.diagnostic (lines source.toList))) ∧
      ∀ remark ∈ remarks, ∀ row k line, (lines source.toList)[row]? = some line → k ≤ line.length →
        remark.node.info.row = row → remark.node.info.byteColumn = (bytesOf (line.take k)).length →
        remark.diagnostic (lines source.toList) = remark.placed row k ∧
        (remark.placed row k).toFinding.line = row + 1 ∧
        (remark.placed row k).toFinding.column = k + 1 ∧
        (bytesBefore (bytesOf source.toList) remark.node.info).toByteArray.utf8Decode? =
          some (line.take k).toArray := by
  obtain ⟨remarks, known, told⟩ := exists_remarks tree
  refine ⟨remarks, fun remark hm => (known remark hm).1, fun source fileName =>
    ⟨told source.toList, ?_, ?_⟩⟩
  · rw [findings_ofTree, ← List.map_map]
    exact (told source.toList).map Diagnostic.toFinding
  · rintro remark - _ k line found short rfl column
    have starts : StartsBehind source.toList remark.node.info (line.take k) :=
      ⟨⟨line.drop k, by rw [List.take_append_drop, found]⟩, column⟩
    have placed := Remark.diagnostic_eq_placed starts
    rw [List.length_take_of_le short] at placed
    refine ⟨placed, rfl, rfl, ?_⟩
    rw [starts.bytesBefore_eq, utf8Decode?_bytesOf]

/-- The node stands behind six characters that have twelve bytes. -/
example : treeDiagnostics "x = 1\né€😀 = ".toList
    (.node ⟨"program", 0, 0, true, false, false, none, none⟩
      [.node ⟨"identifier", 1, 12, true, true, false, none, none⟩ []]) =
    [{ line := 1, character := 6, code := 1003, message := "Identifier expected." }] := by
  decide +kernel

end Handoff.Compiler
