import Mathlib.Data.List.Perm.Basic
import Handoff.Proofs.Stylesheet.Line

/-! # Sheets packed into one line

A sheet of flat rules is spread over lines, with a line for each declaration, or packed into a
single line. Spread out, each rule and each declaration is looked at. Of a packed sheet only the
selector of the first rule and the declarations of the last one are, so that both come to the same
if and only if nothing is wrong with what stands between these.
-/

namespace Handoff.Stylesheet

open Text

variable {lineComments : Bool} {depth depth' depth'' : Int} {line line' offset : Nat}
  {body front gap rest selector text x y : List Char}

/-! ## What is said about a declaration -/

def remarkOf (finding : Finding) : Severity × String × String :=
  (finding.severity, finding.category, finding.message)

def remarksOn (text : List Char) : List (Severity × String × String) :=
  ((Declaration.ofPiece? 0 text).toList.flatMap (checkDeclaration 1)).map remarkOf

theorem remarks_checkDeclaration {a b : Declaration} (property : a.property = b.property)
    (value : a.value = b.value) (line line' : Nat) :
    (checkDeclaration line a).map remarkOf = (checkDeclaration line' b).map remarkOf := by
  unfold checkDeclaration
  rw [property, value]
  split
  · rfl
  · dsimp only
    rw [List.map_append, List.map_append]
    congr 1
    · split
      · rfl
      · simp [remarkOf, unknownProperty, property]
    · cases valueFault? (lower b.property) b.value <;> rfl

/-- Neither its place nor the spaces before it matter to what is said about a declaration. -/
theorem remarks_ofPiece (gap : List Char) (spaces : ∀ c ∈ gap, isSpace c = true)
    (colon : ':' ∈ text) (offset line : Nat) :
    ((Declaration.ofPiece? offset (gap ++ text)).toList.flatMap
      (checkDeclaration line)).map remarkOf = remarksOn text := by
  obtain ⟨before, after, rfl, uncoloned⟩ := List.eq_append_cons_of_mem colon
  have apart : ':' ∉ gap ++ before :=
    List.not_mem_append (fun hm => absurd (spaces _ hm) (by decide)) uncoloned
  have named : trim (gap ++ before) = trim before := trimBoth_append_left spaces before
  rw [remarksOn, ← List.append_assoc, Declaration.ofPiece?, Declaration.ofPiece?,
    cutAt_append_cons apart, cutAt_append_cons uncoloned]
  dsimp only
  rw [named]
  split
  · rfl
  · rw [Option.toList_some, Option.toList_some, List.flatMap_singleton, List.flatMap_singleton]
    apply remarks_checkDeclaration <;> rfl

/-! ## Rules -/

structure WrittenDeclaration where
  property : List Char
  value : List Char
  plainProperty : IsPlain property
  plainValue : IsPlain value

namespace WrittenDeclaration

def written (declaration : WrittenDeclaration) : List Char :=
  declaration.property ++ ':' :: ' ' :: declaration.value

theorem isPlain_written (declaration : WrittenDeclaration) : IsPlain declaration.written :=
  declaration.plainProperty.declaration declaration.plainValue

theorem colon_mem_written (declaration : WrittenDeclaration) : ':' ∈ declaration.written := by
  simp [written]

end WrittenDeclaration

structure WrittenRule where
  selector : List Char
  declarations : List WrittenDeclaration
  plain : IsPlain selector

namespace WrittenRule

def selectorRemarks (rule : WrittenRule) : List (Severity × String × String) :=
  (checkSelector 1 (trim rule.selector)).map remarkOf

def declarationRemarks (rule : WrittenRule) : List (Severity × String × String) :=
  rule.declarations.flatMap fun declaration => remarksOn declaration.written

/-- The rule over lines: its selector, each declaration and its end on a line of their own. -/
def lines (rule : WrittenRule) : List (List Char) :=
  openingLine rule.selector ::
    rule.declarations.map (fun declaration => ' ' :: ' ' :: declaration.written ++ [';']) ++
      [['\x7d']]

/-- The declarations one behind the other. -/
def packedBody (rule : WrittenRule) : List Char :=
  (rule.declarations.map WrittenDeclaration.written).flatMap (· ++ [';'])

def packed (rule : WrittenRule) : List Char :=
  rule.selector ++ '\x7b' :: (rule.packedBody ++ ['\x7d'])

end WrittenRule

def spreadSheet (rules : List WrittenRule) : List Char :=
  joinWith ['\n'] (rules.flatMap WrittenRule.lines)

def packedSheet (rules : List WrittenRule) : List Char := rules.flatMap WrittenRule.packed

/-! ## Spread sheets -/

/-- Lines that take the depth of the braces from one value to another, and what is said about
them. -/
def Yields (lineComments : Bool) (depth : Int) (lines : List (List Char))
    (remarks : List (Severity × String × String)) (depth' : Int) : Prop :=
  ∃ found, Reads lineComments depth lines found depth' ∧ ∀ line, (found line).map remarkOf = remarks

section Yields

variable {lines lines' : List (List Char)} {remarks remarks' : List (Severity × String × String)}

theorem Yields.append (h : Yields lineComments depth lines remarks depth')
    (h' : Yields lineComments depth' lines' remarks' depth'') :
    Yields lineComments depth (lines ++ lines') (remarks ++ remarks') depth'' := by
  obtain ⟨found, reads, said⟩ := h
  obtain ⟨found', reads', said'⟩ := h'
  refine ⟨_, reads.append reads', fun line => ?_⟩
  rw [List.map_append, said, said']

theorem yields_flatMap {α : Type} {parts : List α} {linesOf : α → List (List Char)}
    {remarksOf : α → List (Severity × String × String)}
    (h : ∀ part ∈ parts, Yields lineComments depth (linesOf part) (remarksOf part) depth) :
    Yields lineComments depth (parts.flatMap linesOf) (parts.flatMap remarksOf) depth := by
  induction parts with
  | nil => exact ⟨_, reads_nil, fun _ => rfl⟩
  | cons part parts ih =>
    obtain ⟨first, others⟩ := List.forall_mem_cons.mp h
    exact first.append (ih others)

theorem yields_declaration (declaration : WrittenDeclaration) :
    Yields lineComments 1 [' ' :: ' ' :: declaration.written ++ [';']]
      (remarksOn declaration.written) 1 := by
  have spaces : ∀ c ∈ [' ', ' '], isSpace c = true := by decide
  have indent : IsPlain [' ', ' '] := isPlain_of_forall (by decide)
  have plain : IsPlain (' ' :: ' ' :: declaration.written) :=
    indent.append declaration.isPlain_written fun last => absurd last (by decide)
  have colon : ':' ∈ ' ' :: ' ' :: declaration.written :=
    List.mem_append_right [' ', ' '] declaration.colon_mem_written
  refine ⟨_, reads_line ?_ (checkLine_ended plain colon Int.zero_lt_one), fun line => ?_⟩
  · exact List.not_mem_append plain.newline (by decide)
  · exact remarks_ofPiece [' ', ' '] spaces declaration.colon_mem_written 0 line

theorem yields_rule (rule : WrittenRule) :
    Yields lineComments 0 rule.lines (rule.selectorRemarks ++ rule.declarationRemarks) 0 := by
  have opened : Yields lineComments 0 [openingLine rule.selector] rule.selectorRemarks 1 := by
    refine ⟨_, reads_opening rule.plain, fun line => ?_⟩
    rw [if_pos le_rfl, WrittenRule.selectorRemarks, checkSelector, checkSelector]
    split <;> rfl
  have declared : Yields lineComments 1
      (rule.declarations.map fun declaration => ' ' :: ' ' :: declaration.written ++ [';'])
      rule.declarationRemarks 1 := by
    rw [List.map_eq_flatMap]
    exact yields_flatMap fun declaration _ => yields_declaration declaration
  have closed : Yields lineComments 1 [['\x7d']] [] 0 := by
    have closing : Reads lineComments 1 [[] ++ ['\x7d']] (fun _ => []) (1 - 1) :=
      reads_closing (by simp)
    exact ⟨_, closing, fun _ => rfl⟩
  have whole := (opened.append declared).append closed
  rwa [List.append_nil] at whole

theorem remarks_spreadSheet (lineComments : Bool) (rules : List WrittenRule) :
    (check lineComments (spreadSheet rules)).map remarkOf =
      rules.flatMap fun rule => rule.selectorRemarks ++ rule.declarationRemarks := by
  obtain ⟨found, reads, said⟩ : Yields lineComments 0 (rules.flatMap WrittenRule.lines) _ 0 :=
    yields_flatMap fun rule _ => yields_rule rule
  rw [spreadSheet, reads.check_joined, said]

end Yields

/-! ## Packed sheets -/

theorem isUncommented_flatMap {α : Type} {parts : List α} {f : α → List Char}
    (h : ∀ part ∈ parts, IsUncommented (f part) ∧ (f part).getLast? ≠ some '/') :
    IsUncommented (parts.flatMap f) := by
  induction parts with
  | nil => exact isUncommented_of_not_mem List.not_mem_nil
  | cons part parts ih =>
    obtain ⟨⟨first, ends⟩, others⟩ := List.forall_mem_cons.mp h
    exact first.append (ih others) fun last => absurd last ends

theorem depthChange_flatMap {α : Type} {parts : List α} {f : α → List Char}
    (h : ∀ part ∈ parts, depthChange (f part) = 0) : depthChange (parts.flatMap f) = 0 := by
  induction parts with
  | nil => rfl
  | cons part parts ih =>
    obtain ⟨first, others⟩ := List.forall_mem_cons.mp h
    rw [List.flatMap_cons, depthChange_append, first, ih others, Int.add_zero]

namespace WrittenRule

variable (rule : WrittenRule)

theorem not_mem_packedBody {c : Char}
    (h : ∀ declaration ∈ rule.declarations, c ∉ declaration.written)
    (other : c ≠ ';') : c ∉ rule.packedBody := by
  simp only [packedBody, List.mem_flatMap, List.mem_map, List.mem_append, List.mem_singleton]
  rintro ⟨_, ⟨declaration, hd, rfl⟩, hc | hc⟩
  · exact h declaration hd hc
  · exact other hc

theorem opening_not_mem_packedBody : '\x7b' ∉ rule.packedBody :=
  rule.not_mem_packedBody (fun declaration _ => declaration.isPlain_written.opening) (by decide)

theorem closing_not_mem_packedBody : '\x7d' ∉ rule.packedBody :=
  rule.not_mem_packedBody (fun declaration _ => declaration.isPlain_written.closing) (by decide)

theorem isUncommented_packedBody : IsUncommented rule.packedBody := by
  refine isUncommented_flatMap fun text ht => ?_
  obtain ⟨declaration, -, rfl⟩ := List.mem_map.mp ht
  constructor
  · exact declaration.isPlain_written.toIsUncommented.append (isUncommented_of_not_mem (by decide))
      fun _ => by decide
  · simp

theorem isUncommented_packed : IsUncommented rule.packed := by
  have close : IsUncommented ['\x7d'] := isUncommented_of_not_mem (by decide)
  have open_ : IsUncommented ['\x7b'] := isUncommented_of_not_mem (by decide)
  have inner : IsUncommented (rule.packedBody ++ ['\x7d']) :=
    rule.isUncommented_packedBody.append close fun _ => by decide
  have braced : IsUncommented (['\x7b'] ++ (rule.packedBody ++ ['\x7d'])) :=
    open_.append inner fun last => absurd last (by decide)
  exact rule.plain.toIsUncommented.append braced fun _ => by simp

theorem getLast?_packed : rule.packed.getLast? = some '\x7d' := by
  rw [packed, ← List.cons_append, ← List.append_assoc, List.getLast?_concat]

theorem newline_not_mem_packed : '\n' ∉ rule.packed := by
  have inner : '\n' ∉ rule.packedBody :=
    rule.not_mem_packedBody (fun declaration _ => declaration.isPlain_written.newline) (by decide)
  refine List.not_mem_append rule.plain.newline (List.not_mem_cons_of_ne_of_not_mem (by decide) ?_)
  exact List.not_mem_append inner (by decide)

theorem depthChange_packed : depthChange rule.packed = 0 := by
  have split : rule.packed = rule.selector ++ (['\x7b'] ++ (rule.packedBody ++ ['\x7d'])) := rfl
  have inner : depthChange rule.packedBody = 0 := by
    rw [depthChange, List.count_eq_zero.mpr rule.opening_not_mem_packedBody,
      List.count_eq_zero.mpr rule.closing_not_mem_packedBody]
    rfl
  rw [split, depthChange_append, depthChange_append, depthChange_append,
    rule.plain.depthChange, inner]
  rfl

theorem remarks_packedBody (offset line : Nat) :
    ((Stylesheet.declarations offset (rule.packedBody ++ ['\x7d'])).flatMap
      (checkDeclaration line)).map remarkOf = rule.declarationRemarks := by
  have taken : (rule.packedBody ++ ['\x7d']).takeWhile (· != '\x7d') = rule.packedBody :=
    takeWhile_ne_append rule.closing_not_mem_packedBody []
  have cut :
      pieces ';' rule.packedBody = rule.declarations.map WrittenDeclaration.written ++ [[]] := by
    have ended : pieces ';' (rule.packedBody ++ []) =
        rule.declarations.map WrittenDeclaration.written ++ pieces ';' [] :=
      pieces_ended (List.forall_mem_map.mpr fun declaration _ =>
        declaration.isPlain_written.semicolon) []
    rwa [List.append_nil] at ended
  rw [Stylesheet.declarations, taken, cut, declarationRemarks]
  generalize rule.declarations = declarations
  induction declarations generalizing offset with
  | nil => rfl
  | cons declaration declarations ih =>
    have first := remarks_ofPiece [] (by simp) declaration.colon_mem_written offset line
    rw [List.map_cons, List.cons_append, declarationsOf, List.flatMap_append, List.map_append, ih,
      List.flatMap_cons, ← first]
    rfl

end WrittenRule

theorem afterLastBrace_append (h : '\x7b' ∉ y) (x : List Char) :
    afterLastBrace (x ++ '\x7b' :: y) = (y, x.length + 1) := by
  have turned : (x ++ '\x7b' :: y).reverse = y.reverse ++ '\x7b' :: x.reverse := by simp
  have tail : ((x ++ '\x7b' :: y).reverse.takeWhile (· != '\x7b')).reverse = y := by
    rw [turned, takeWhile_ne_append (by simpa using h), List.reverse_reverse]
  rw [afterLastBrace, tail, List.length_append, List.length_cons]
  congr 1
  omega

/-- Of a line with braces, what stands before the first one that opens is the selector, and what
stands behind the last one are the declarations. -/
theorem checkLine_braces (lineComments : Bool) (uncommented : IsUncommented text)
    (balanced : depthChange text = 0) (first : text = selector ++ '\x7b' :: rest)
    (unopened : '\x7b' ∉ selector)
    (last : text = front ++ '\x7b' :: (body ++ ['\x7d'])) (flat : '\x7b' ∉ body) (line : Nat) :
    checkLine lineComments {} line text =
      (checkSelector line (trim selector) ++
        (declarations (front.length + 1) (body ++ ['\x7d'])).flatMap (checkDeclaration line),
        {}) := by
  have brace : (trim text).contains '\x7b' = true := by
    rw [List.contains_iff_mem, trim, mem_trimBoth_iff (by decide), first]
    simp
  have inner : '\x7b' ∉ body ++ ['\x7d'] := List.not_mem_append flat (by decide)
  have reading : LineReading.of 0 text (trim text) =
      .opening (trim selector) (body ++ ['\x7d']) (front.length + 1) := by
    have head : text.takeWhile (· != '\x7b') = selector := by
      rw [first, takeWhile_ne_append unopened]
    have tail : afterLastBrace text = (body ++ ['\x7d'], front.length + 1) := by
      rw [last, afterLastBrace_append inner]
    rw [LineReading.of, if_pos brace, head, tail]
  have ended : (trim text).getLast? = some '\x7d' := by
    rw [last, ← List.cons_append, ← List.append_assoc, trim, trimBoth_append_cons (by decide)]
    simp
  have joined : joinSelector [] (trim selector) = trim selector := by
    simp [joinSelector, joinWith, trim, trimBoth_trimBoth]
  simp only [checkLine, blankComments_of_isUncommented uncommented, reading,
    depthChange_trim, balanced, joined, checkDeclarations]
  simp [ended]

theorem packedSheet_cons (rule : WrittenRule) (rules : List WrittenRule) :
    packedSheet (rule :: rules) = rule.packed ++ packedSheet rules := rfl

theorem packedSheet_concat (rules : List WrittenRule) (rule : WrittenRule) :
    packedSheet (rules ++ [rule]) = packedSheet rules ++ rule.packed := by
  simp [packedSheet]

/-- A line that leaves no brace open is a sheet of its own. -/
theorem check_line {found : List Finding} (lined : '\n' ∉ text)
    (step : checkLine lineComments {} 1 text = (found, {})) : check lineComments text = found := by
  rw [check, Text.lines, pieces_of_not_mem lined, checkLines, step]
  simp [checkLines]

/-- Of a packed sheet, only the selector of the first rule and the declarations of the last are
looked at. -/
theorem remarks_packedSheet (lineComments : Bool) (rules : List WrittenRule) :
    (check lineComments (packedSheet rules)).map remarkOf =
      rules.head?.toList.flatMap WrittenRule.selectorRemarks ++
        rules.getLast?.toList.flatMap WrittenRule.declarationRemarks := by
  rcases rules.eq_nil_or_concat' with rfl | ⟨before, last, he⟩
  · have none : check lineComments (joinWith ['\n'] []) = [] := reads_nil.check_joined
    exact congrArg (List.map remarkOf) none
  · obtain ⟨first, behind, hf⟩ := List.exists_cons_of_ne_nil (l := rules) (by simp [he])
    have uncommented : IsUncommented (packedSheet rules) :=
      isUncommented_flatMap fun rule _ =>
        ⟨rule.isUncommented_packed, by simp [rule.getLast?_packed]⟩
    have balanced : depthChange (packedSheet rules) = 0 :=
      depthChange_flatMap fun rule _ => rule.depthChange_packed
    have lined : '\n' ∉ packedSheet rules := by
      rw [packedSheet, List.mem_flatMap]
      rintro ⟨rule, -, hm⟩
      exact rule.newline_not_mem_packed hm
    have head : packedSheet rules =
        first.selector ++ '\x7b' :: (first.packedBody ++ ['\x7d'] ++ packedSheet behind) := by
      rw [hf, packedSheet_cons, WrittenRule.packed, List.append_assoc, List.cons_append]
    have tail : packedSheet rules =
        packedSheet before ++ last.selector ++ '\x7b' :: (last.packedBody ++ ['\x7d']) := by
      rw [he, packedSheet_concat, WrittenRule.packed, List.append_assoc]
    have step := checkLine_braces lineComments uncommented balanced head
      first.plain.opening tail last.opening_not_mem_packedBody 1
    have ends : rules.head? = some first ∧ rules.getLast? = some last := by
      constructor
      · rw [hf]
        rfl
      · rw [he, List.getLast?_concat]
    rw [check_line lined step, List.map_append, last.remarks_packedBody, ends.1, ends.2]
    simp [WrittenRule.selectorRemarks]

/-- A packed sheet comes to the same findings as the sheet spread over lines, if places, advice and
order do not count, if and only if there is nothing to be said about the selectors behind the first
rule and the declarations before the last one. -/
theorem packed_perm_spread_iff (lineComments : Bool) (rules : List WrittenRule) :
    ((check lineComments (packedSheet rules)).map remarkOf).Perm
        ((check lineComments (spreadSheet rules)).map remarkOf) ↔
      (∀ rule ∈ rules.tail, rule.selectorRemarks = []) ∧
        ∀ rule ∈ rules.dropLast, rule.declarationRemarks = [] := by
  have heads : rules.flatMap WrittenRule.selectorRemarks =
      rules.head?.toList.flatMap WrittenRule.selectorRemarks ++
        rules.tail.flatMap WrittenRule.selectorRemarks := by
    cases rules <;> simp
  have lasts : rules.flatMap WrittenRule.declarationRemarks =
      rules.dropLast.flatMap WrittenRule.declarationRemarks ++
        rules.getLast?.toList.flatMap WrittenRule.declarationRemarks := by
    rcases rules.eq_nil_or_concat' with rfl | ⟨before, last, rfl⟩ <;> simp
  have sorted :=
    List.flatMap_append_perm rules WrittenRule.selectorRemarks WrittenRule.declarationRemarks
  rw [heads, lasts] at sorted
  rw [remarks_packedSheet, remarks_spreadSheet, ← List.flatMap_eq_nil_iff,
    ← List.flatMap_eq_nil_iff]
  constructor
  · intro alike
    -- the spread sheet has all the remarks of the packed one, so that there is no room for others
    have length := (alike.trans sorted.symm).length_eq
    simp only [List.length_append] at length
    constructor <;> refine List.eq_nil_of_length_eq_zero ?_ <;> omega
  · rintro ⟨selectors, declarations⟩
    rw [selectors, declarations, List.append_nil, List.nil_append] at sorted
    exact sorted

/-- On one line with a rule behind it, a rule keeps its unknown property to itself. -/
theorem packed_hides_unknown_property :
    ∃ rules : List WrittenRule,
      packedSheet rules = ".a\x7bcolr: red;\x7d.b\x7bcolor: red;\x7d".toList ∧
      (check false (packedSheet rules)).map remarkOf = [] ∧
      (check false (spreadSheet rules)).map remarkOf =
        [(.warning, "property", "Unknown CSS property: colr")] := by
  let misspelt : WrittenDeclaration :=
    ⟨"colr".toList, "red".toList, isPlain_of_forall (by decide), isPlain_of_forall (by decide)⟩
  let known : WrittenDeclaration :=
    ⟨"color".toList, "red".toList, isPlain_of_forall (by decide), isPlain_of_forall (by decide)⟩
  refine ⟨[⟨".a".toList, [misspelt], isPlain_of_forall (by decide)⟩,
    ⟨".b".toList, [known], isPlain_of_forall (by decide)⟩], ?_⟩
  decide +kernel

end Handoff.Stylesheet
