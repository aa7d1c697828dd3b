import Handoff.Compiler.Diagnostic
import Handoff.Markup.Tag
import Handoff.Report.Result
import Handoff.Stylesheet.Check

/-! # Validation by language

Each language has its checks: stylesheets are read as such, typed code goes to the compiler, and
everything that holds markup has its tags balanced. Whatever goes wrong in a check is itself
reported as a finding.
-/

namespace Handoff

inductive Language where
  | css | scss | typescript | tsx | javascript | jsx | html | vue | svelte | angular
deriving Repr, DecidableEq

namespace Language

def name : Language → String
  | css => "css"
  | scss => "scss"
  | typescript => "typescript"
  | tsx => "tsx"
  | javascript => "javascript"
  | jsx => "jsx"
  | html => "html"
  | vue => "vue"
  | svelte => "svelte"
  | angular => "angular"

def all : List Language :=
  [css, scss, typescript, tsx, javascript, jsx, html, vue, svelte, angular]

def ofName? (name : String) : Option Language := all.find? (·.name == name)

def unsupported (name : String) : String :=
  s!"Unsupported language '{name}'. Use one of: " ++ ", ".intercalate (all.map Language.name)

def missingSource : Language → String
  | css | scss => "'NoneType' object has no attribute 'split'"
  | _ => "expected string or bytes-like object, got 'NoneType'"

def findings (compiler : Compiler) (source : String) : Language → List Finding
  | css => Stylesheet.check false source.toList
  | scss => Stylesheet.check true source.toList
  | typescript | tsx =>
    Compiler.findings compiler source "component.tsx" ++
      Markup.checkTags true true source.toList
  | javascript | jsx => Markup.checkTags true true source.toList
  | html | vue | svelte => Markup.checkTags false true source.toList
  | angular =>
    Compiler.findings compiler source "component.ts" ++
      Markup.checkTags false true source.toList

end Language

namespace Validation

/-- The finding for a check that could not be made. -/
def failureFinding (language reason : String) : Finding :=
  { line := 1, column := 1, message := "Validation failed due to internal error: " ++ reason
    severity := .error, source := if language.isEmpty then "unknown" else language
    category := "system"
    suggestion := some "Report this input; the validator could not process it" }

def validate (compiler : Compiler) (source : Option String) (language : String) :
    ValidationResult :=
  let name := String.ofList (Text.lower language.toList)
  .ofFindings <|
    match Language.ofName? name, source with
    | none, _ => [failureFinding name (Language.unsupported name)]
    | some known, none => [failureFinding name known.missingSource]
    | some known, some source => known.findings compiler source

end Validation

end Handoff
