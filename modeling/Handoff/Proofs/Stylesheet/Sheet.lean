import Handoff.Proofs.Stylesheet.Line

/-! # Sheets of flat rules

A rule is laid out as a line with its selector, a line for each declaration, and a line that ends
it. In a sheet of such rules exactly the unfit selectors, the unknown properties and the unfit
values are found, each on its own line.
-/

namespace Handoff.Stylesheet

open Text

variable {lineComments : Bool}

/-! ## Declarations -/

structure FlatDeclaration where
  property : List Char
  value : List Char
  plainProperty : IsPlain property
  plainValue : IsPlain value
  uncoloned : ':' ∉ property
  named : trim property ≠ []

namespace FlatDeclaration

def name (declaration : FlatDeclaration) : List Char := lower (trim declaration.property)

def line (declaration : FlatDeclaration) : List Char :=
  "  ".toList ++ declaration.property ++ ": ".toList ++ declaration.value ++ ";".toList

/-- Whether the declaration is none of a property: it sets a variable, or it stands for a nested
rule. -/
def IsExempt (declaration : FlatDeclaration) : Prop :=
  (trim declaration.property).head? ∈ [some '$', some '&', some '@']

instance (declaration : FlatDeclaration) : Decidable declaration.IsExempt :=
  inferInstanceAs (Decidable (_ ∈ _))

def propertyFinding (declaration : FlatDeclaration) (line : Nat) : Finding :=
  { line := line
    column := (declaration.property.takeWhile isSpace).length + 3
    message := "Unknown CSS property: " ++ String.ofList (trim declaration.property)
    severity := .warning
    source := "css"
    category := "property"
    suggestion := some (propertyAdvice declaration.name) }

/-- The finding about an unfit value, right behind the colon. -/
def valueFinding (declaration : FlatDeclaration) (fault : ValueFault) (line : Nat) : Finding :=
  { line := line
    column := declaration.property.length + 4
    message := fault.message
    severity := .error
    source := "css"
    category := "value"
    suggestion := some (valueAdvice declaration.name) }

def findings (declaration : FlatDeclaration) (line : Nat) : List Finding :=
  if declaration.IsExempt then []
  else
    (if isKnownProperty declaration.name then [] else [declaration.propertyFinding line]) ++
      match valueFault? declaration.name (withoutImportance declaration.value) with
      | none => []
      | some fault => [declaration.valueFinding fault line]

theorem isExempt_iff (property : List Char) :
    Stylesheet.isExempt property = true ↔ property.head? ∈ [some '$', some '&', some '@'] := by
  cases property <;> simp [Stylesheet.isExempt, or_assoc]

theorem trim_indented (text : List Char) : trim (' ' :: ' ' :: text) = trim text := by
  rw [trim_cons_space (by decide), trim_cons_space (by decide)]

theorem checkDeclaration_eq (declaration : FlatDeclaration) (line : Nat) :
    checkDeclaration line (declarationOf (' ' :: ' ' :: declaration.property) declaration.value) =
      declaration.findings line := by
  have column : ((' ' :: ' ' :: declaration.property).takeWhile isSpace).length + 1 =
      (declaration.property.takeWhile isSpace).length + 3 := by
    have space : isSpace ' ' = true := by decide
    simp [space]
  rw [checkDeclaration, declarationOf, trim_indented, column, findings]
  refine ite_congr (propext (isExempt_iff _)) (fun _ => rfl) fun _ => ?_
  dsimp only
  rw [name]
  cases valueFault? (lower (trim declaration.property)) (withoutImportance declaration.value) <;>
    rfl

theorem line_eq (declaration : FlatDeclaration) :
    declaration.line = declarationLine (' ' :: ' ' :: declaration.property) declaration.value := by
  simp [line, declarationLine]

theorem reads (declaration : FlatDeclaration) :
    Reads lineComments 1 [declaration.line] declaration.findings 1 := by
  have spaces : IsPlain [' ', ' '] := isPlain_of_forall (by decide)
  have indented : IsPlain (' ' :: ' ' :: declaration.property) :=
    spaces.append declaration.plainProperty fun last => absurd last (by decide)
  have uncoloned : ':' ∉ ' ' :: ' ' :: declaration.property := by
    simpa using declaration.uncoloned
  have named : trim (' ' :: ' ' :: declaration.property) ≠ [] := by
    rw [trim_indented]
    exact declaration.named
  have found : declaration.findings = fun line =>
      checkDeclaration line (declarationOf (' ' :: ' ' :: declaration.property)
        declaration.value) :=
    funext fun line => (declaration.checkDeclaration_eq line).symm
  rw [line_eq, found]
  exact reads_declaration indented declaration.plainValue uncoloned named Int.zero_lt_one

end FlatDeclaration

def declarationFindings (line : Nat) : List FlatDeclaration → List Finding
  | [] => []
  | declaration :: rest => declaration.findings line ++ declarationFindings (line + 1) rest

theorem reads_declarations (declarations : List FlatDeclaration) :
    Reads lineComments 1 (declarations.map FlatDeclaration.line)
      (fun line => declarationFindings line declarations) 1 := by
  induction declarations with
  | nil => exact reads_nil
  | cons declaration rest ih => exact declaration.reads.append ih

/-! ## Rules -/

structure FlatRule where
  selector : List Char
  declarations : List FlatDeclaration
  plain : IsPlain selector
  unruled : (trim selector).head? ≠ some '@'

namespace FlatRule

def lines (rule : FlatRule) : List (List Char) :=
  (rule.selector ++ " \x7b".toList) :: rule.declarations.map FlatDeclaration.line ++ ["\x7d".toList]

def selectorFinding (rule : FlatRule) (line : Nat) : Finding :=
  { line := line
    column := 1
    message :=
      if trim rule.selector = [] then "Missing CSS selector"
      else "Invalid CSS selector: " ++ String.ofList (trim rule.selector)
    severity := .error
    source := "css"
    category := "selector"
    suggestion := some "Check selector syntax and ensure proper nesting" }

def findings (rule : FlatRule) (line : Nat) : List Finding :=
  (if isSelector (trim rule.selector) then [] else [rule.selectorFinding line]) ++
    declarationFindings (line + 1) rule.declarations

theorem checkSelector_eq (rule : FlatRule) (line : Nat) :
    checkSelector line (trim rule.selector) =
      if isSelector (trim rule.selector) then [] else [rule.selectorFinding line] := by
  have unruled : ((trim rule.selector).head? == some '@') = false := by simpa using rule.unruled
  simp [checkSelector, unruled, selectorFinding, findingSource]

theorem reads (rule : FlatRule) : Reads lineComments 0 rule.lines rule.findings 0 := by
  have opened :
      Reads lineComments 0 [openingLine rule.selector]
        (fun line => if isSelector (trim rule.selector) then [] else [rule.selectorFinding line])
        1 := by
    have opening : Reads lineComments 0 [openingLine rule.selector] _ (0 + 1) :=
      reads_opening rule.plain
    simpa [checkSelector_eq] using opening
  have closed : Reads lineComments 1 [[] ++ ['\x7d']] (fun _ => []) (1 - 1) :=
    reads_closing (by simp)
  have lines : rule.lines = [openingLine rule.selector] ++
      rule.declarations.map FlatDeclaration.line ++ [[] ++ ['\x7d']] := rfl
  have found : rule.findings = fun line =>
      ((if isSelector (trim rule.selector) then [] else [rule.selectorFinding line]) ++
        declarationFindings (line + 1) rule.declarations) ++ [] := by
    funext line
    rw [List.append_nil, findings]
  rw [lines, found]
  exact (opened.append (reads_declarations rule.declarations)).append closed

end FlatRule

def sheetLines (rules : List FlatRule) : List (List Char) := rules.flatMap FlatRule.lines

def sheetFindings (line : Nat) : List FlatRule → List Finding
  | [] => []
  | rule :: rest => rule.findings line ++ sheetFindings (line + (rule.declarations.length + 2)) rest

theorem reads_sheet (rules : List FlatRule) :
    Reads lineComments 0 (sheetLines rules) (fun line => sheetFindings line rules) 0 := by
  induction rules with
  | nil => exact reads_nil
  | cons rule rest ih =>
    have length : rule.lines.length = rule.declarations.length + 2 := by simp [FlatRule.lines]
    have whole := rule.reads.append ih
    rw [length] at whole
    exact whole

/-- In a sheet of flat rules the checks find exactly the unfit selectors, the unknown properties and
the unfit values, in the order of the sheet and on their own lines, whether or not line comments are
allowed and whether or not the last line has a newline behind it. -/
theorem check_sheet (lineComments : Bool) (rules : List FlatRule) :
    check lineComments (joinWith ['\n'] (sheetLines rules)) = sheetFindings 1 rules ∧
      check lineComments ((sheetLines rules).flatMap (· ++ ['\n'])) = sheetFindings 1 rules :=
  ⟨(reads_sheet rules).check_joined, (reads_sheet rules).check_ended⟩

example : (check false ".icon \x7b\n  width: wide;\n  display: block;\n\x7d".toList).map
    (fun finding => (finding.line, finding.column, finding.message)) =
      [(2, 9, "Invalid length value")] := by
  decide +kernel

end Handoff.Stylesheet
