import Handoff.Json.Display
import Handoff.Options.Checked
import Handoff.Text.Lines

/-! # Reporting problems

Problems of options are told one after the other, each with the keys that lead to it, what was found
there, and a page that says more. Of a long value only the two ends are shown.
-/

namespace Handoff

/-- How many bytes of a value are shown before and behind what is left out. -/
structure Excerpt where
  before : Nat
  behind : Nat
deriving Repr, DecidableEq

namespace Excerpt

/-- The characters at the front of a text that fit into so many bytes. -/
def fitting (size : Nat) : List Char → List Char
  | [] => []
  | c :: rest => if c.utf8Size ≤ size then c :: fitting (size - c.utf8Size) rest else []

/-- A text with its middle left out, if it has more bytes than its two ends and one more. -/
def shorten (excerpt : Excerpt) (text : String) : String :=
  if text.utf8ByteSize ≤ excerpt.before + excerpt.behind + 1 then text
  else String.ofList (fitting excerpt.before text.toList) ++ "..." ++
    String.ofList (fitting excerpt.behind text.toList.reverse).reverse

end Excerpt

namespace Problem

/-- What is shown of a value: all of it up to fifty bytes. -/
def excerpt : Excerpt := ⟨25, 24⟩

def page (kind : ProblemKind) : String :=
  "/".intercalate ["https:", "", ".".intercalate ["errors", "pydantic", "dev"], "2.14",
    "v", kind.code]

def lines (problem : Problem) : List String :=
  [".".intercalate problem.path,
   "  " ++ problem.kind.message ++ " [type=" ++ problem.kind.code ++ ", input_value=" ++
     excerpt.shorten problem.found.literal ++ ", input_type=" ++ problem.found.kindWord ++ "]",
   "    For further information visit " ++ page problem.kind]

def report (group : String) (problems : List Problem) : String :=
  let head := intText problems.length ++ " validation error" ++
    (if problems.length == 1 then "" else "s") ++ " for " ++ group
  Text.joinLines (head :: problems.flatMap lines)

end Problem

end Handoff
