import Handoff.Markup.Root
import Handoff.Text.Digit

/-! # Attribute values as default values

A root attribute becomes the default of a property: a numeral stands for itself, any other value is
written as a string in single quotes.
-/

namespace Handoff.Component

/-- One character of a string in single quotes. -/
def literalChar (c : Char) : List Char :=
  if c == '\\' then ['\\', '\\'] else if c == '\'' then ['\\', '\''] else [c]

def stringLiteral (value : List Char) : List Char := '\'' :: value.flatMap literalChar ++ ['\'']

/-- Whether a value is one or more digits, perhaps with a point and more digits behind it. -/
def isNumeral (value : List Char) : Bool :=
  let whole := value.takeWhile Text.isDecimal
  !whole.isEmpty &&
    match value.dropWhile Text.isDecimal with
    | [] => true
    | '.' :: fraction => !fraction.isEmpty && fraction.all Text.isDecimal
    | _ => false

def defaultLiteral (value : List Char) : List Char :=
  if isNumeral value then value else stringLiteral value

/-- The class of a root as a default, empty when it has none. -/
def classDefault (root : Markup.Root) : List Char :=
  stringLiteral ((root.value? "className").getD [])

end Handoff.Component
