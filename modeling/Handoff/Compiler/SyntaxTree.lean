import Handoff.Text.Lines
import Handoff.Compiler.Diagnostic

/-! # Checking syntax trees

A parser marks what it had to make up and what it could not read. Besides these marks, the tags of
elements are compared, and names given twice are found. Nothing below an unreadable node is looked
at, apart from the names.
-/

namespace Handoff.Compiler

/-- What a node of a syntax tree says about itself. -/
structure NodeInfo where
  kind : String
  row : Nat
  byteColumn : Nat
  named : Bool
  missing : Bool
  unreadable : Bool
  text : Option String
  field : Option String
deriving Repr, DecidableEq, Inhabited

/-- A syntax tree. -/
inductive SyntaxTree where
  | node (info : NodeInfo) (children : List SyntaxTree)
deriving Inhabited

namespace SyntaxTree

/-- What the root of a tree says about itself. -/
def info : SyntaxTree → NodeInfo
  | node info _ => info

def children : SyntaxTree → List SyntaxTree
  | node _ children => children

def kind (tree : SyntaxTree) : String := tree.info.kind

def text (tree : SyntaxTree) : Option String := tree.info.text

def namedChildren (tree : SyntaxTree) : List SyntaxTree := tree.children.filter (·.info.named)

/-- The first tree below the root with a field name. -/
def child? (tree : SyntaxTree) (field : String) : Option SyntaxTree :=
  tree.children.find? (·.info.field == some field)

/-- The tree of a source without any statement. -/
def empty : SyntaxTree := node ⟨"program", 0, 0, true, false, false, none, none⟩ []

end SyntaxTree

/-! ## Places -/

/-- How many characters start within a number of bytes. -/
def charactersWithin : Nat → List Char → Nat
  | _, [] => 0
  | 0, _ => 0
  | bytes@(_ + 1), c :: rest => charactersWithin (bytes - c.utf8Size) rest + 1

def characterOf (lines : List (List Char)) (info : NodeInfo) : Nat :=
  charactersWithin info.byteColumn (lines.getD info.row [])

def diagnosticAt (lines : List (List Char)) (tree : SyntaxTree) (code : Int) (message : String) :
    Diagnostic :=
  { line := tree.info.row, character := characterOf lines tree.info, code, message }

/-! ## Nodes -/

/-- The closing tag of an element and the name of its opening tag, if the names differ. -/
def mismatchedClosing? (element : SyntaxTree) : Option (SyntaxTree × String) :=
  match element.children with
  | opening :: second :: rest =>
    let closing := (second :: rest).getLastD second
    if opening.kind == "jsx_opening_element" && closing.kind == "jsx_closing_element" then
      match (opening.child? "name").bind (·.text), (closing.child? "name").bind (·.text) with
      | some name, some other => if name == other then none else some (closing, name)
      | _, _ => none
    else none
  | _ => none

/-- The things whose key occurred before, in order. -/
def repeatedFrom {α κ : Type} [BEq κ] (key : α → κ) (seen : List κ) : List α → List α
  | [] => []
  | x :: rest =>
    if seen.contains (key x) then x :: repeatedFrom key seen rest
    else repeatedFrom key (key x :: seen) rest

def namedAttributes (element : SyntaxTree) : List (SyntaxTree × Option String) :=
  element.namedChildren.filterMap fun child =>
    if child.kind == "jsx_attribute" then
      child.namedChildren.head?.map fun name => (child, name.text)
    else none

/-- The attributes of an element whose name occurred before. -/
def duplicateAttributes (element : SyntaxTree) : List SyntaxTree :=
  (repeatedFrom Prod.snd [] (namedAttributes element)).map Prod.fst

/-- What is wrong with a node itself, given the kind of the node above it. -/
def checkNode (lines : List (List Char)) (above : Option String) (tree : SyntaxTree) :
    List Diagnostic :=
  if tree.info.missing then
    if tree.info.named then [diagnosticAt lines tree 1003 "Identifier expected."]
    else [diagnosticAt lines tree 1005 (s!"'{tree.kind}' expected.")]
  else if tree.info.unreadable then
    if (above.map (· == "program")).getD true then
      [diagnosticAt lines tree 1128 "Declaration or statement expected."]
    else [diagnosticAt lines tree 1109 "Expression expected."]
  else if tree.kind == "jsx_element" then
    ((mismatchedClosing? tree).map fun (closing, name) =>
      diagnosticAt lines closing 17002
        (s!"Expected corresponding JSX closing tag for '{name}'.")).toList
  else if tree.kind == "jsx_opening_element" || tree.kind == "jsx_self_closing_element" then
    (duplicateAttributes tree).map fun entry =>
      diagnosticAt lines entry 17001
        "JSX elements cannot have multiple attributes with the same name."
  else []

mutual

/-- What is wrong in a tree, each node before those below it. Nothing below an unreadable node is
looked at. -/
def checkTree (lines : List (List Char)) (above : Option String) : SyntaxTree → List Diagnostic
  | tree@(.node info children) =>
    checkNode lines above tree ++
      if info.unreadable then [] else checkTrees lines (some info.kind) children
termination_by structural tree => tree

def checkTrees (lines : List (List Char)) (above : Option String) :
    List SyntaxTree → List Diagnostic
  | [] => []
  | tree :: rest => checkTree lines above tree ++ checkTrees lines above rest
termination_by structural trees => trees

end

/-! ## Names -/

/-- The names that a declaration of constants and variables gives. -/
def lexicalNames (statement : SyntaxTree) : List SyntaxTree :=
  statement.namedChildren.filterMap fun declarator =>
    if declarator.kind == "variable_declarator" then
      (declarator.child? "name").filter (·.kind == "identifier")
    else none

mutual

/-- The names that a statement declares in its block, also through exports. -/
def declaredNames : SyntaxTree → List SyntaxTree
  | tree@(.node info children) =>
    if info.kind == "export_statement" then exportedNames children
    else if info.kind == "lexical_declaration" then lexicalNames tree
    else if info.kind == "class_declaration" then (tree.child? "name").toList
    else []
termination_by structural tree => tree

/-- The names that the first declaration among some trees declares. -/
def exportedNames : List SyntaxTree → List SyntaxTree
  | [] => []
  | tree :: rest =>
    if tree.info.field == some "declaration" then declaredNames tree else exportedNames rest
termination_by structural trees => trees

end

def topNames (program : SyntaxTree) : List SyntaxTree :=
  program.namedChildren.flatMap declaredNames

/-- The names at the top of a program that were declared before. -/
def redeclaredNames (program : SyntaxTree) : List SyntaxTree :=
  repeatedFrom SyntaxTree.text [] (topNames program)

/-- A name that is declared again. A name without text is shown as `None`. -/
def redeclaration (lines : List (List Char)) (name : SyntaxTree) : Diagnostic :=
  let shown := name.text.getD "None"
  diagnosticAt lines name 2451 (s!"Cannot redeclare block-scoped variable '{shown}'.")

/-! ## Sources -/

def standsBefore (a b : Diagnostic) : Bool :=
  a.line < b.line || (a.line == b.line && a.character ≤ b.character)

/-- What is wrong with a source and its tree, in the order of the source. -/
def treeDiagnostics (source : List Char) (tree : SyntaxTree) : List Diagnostic :=
  let lines := Text.lines source
  (checkTree lines none tree ++ (redeclaredNames tree).map (redeclaration lines)).mergeSort
    standsBefore

def grammarOf (fileName : String) : String :=
  if Text.hasEnding ".tsx" fileName || Text.hasEnding ".jsx" fileName then "tsx" else "typescript"

/-- A compiler that knows the syntax only. A grammar that cannot be loaded makes it fail. -/
def ofTree (tree : SyntaxTree) (grammarFault : Option String) : Compiler :=
  fun source fileName =>
    match grammarFault with
    | some reason => .error (s!"Failed to load {grammarOf fileName} grammar: {reason}")
    | none => .ok (treeDiagnostics source.toList tree)

end Handoff.Compiler
