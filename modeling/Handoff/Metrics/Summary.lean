import Handoff.Metrics.Score

/-! # Summary of a component

What kind of component a source holds, how long it is, and what it declares and uses.
-/

namespace Handoff.Metrics

/-- What a source says about its component. -/
structure Summary where
  name : String
  isClass : Bool
  lines : Nat
  complexity : Nat
  dependencies : List String
  props : Nat
  hooks : Nat
deriving Repr, DecidableEq

namespace Summary

def ofCode (name code : String) : Summary :=
  let text := code.toList
  { name := name
    isClass := Text.holds "class ".toList text
    lines := lineCount text
    complexity := Metrics.complexity text
    dependencies := (imports text).map String.ofList
    props := Text.countOf propsDeclaration text
    hooks := Text.countOf hook text }

def kind (summary : Summary) : String := if summary.isClass then "class" else "function"

def toJson (summary : Summary) : Json :=
  .object [("name", .string summary.name), ("type", .string summary.kind),
    ("lines", .int summary.lines), ("complexity", .int summary.complexity),
    ("dependencies", .list (summary.dependencies.map .string)),
    ("props", .int summary.props), ("hooks", .int summary.hooks)]

end Summary

end Handoff.Metrics
