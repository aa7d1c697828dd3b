/-! # Backends

Typed sources are checked by their syntax tree, unless the program of a compiler is set.
-/

namespace Handoff.Compiler

inductive Backend where
  | syntaxTree
  | program (executable : String)
deriving Repr, DecidableEq

/-- The backend for a setting; an empty one counts as none. -/
def Backend.ofSetting (setting : Option String) : Backend :=
  match setting.filter (!·.isEmpty) with
  | some executable => program executable
  | none => syntaxTree

end Handoff.Compiler
