import Handoff.Proofs.Stylesheet.Value
import Handoff.Proofs.Text.Lines
import Handoff.Proofs.Text.Scan
import Handoff.Stylesheet.Check

/-! # Lines of a stylesheet

Where no comment is open and no selector has begun, only the depth of the braces is carried from one
line to the next. What such a line comes to depends on its kind: it opens a rule or ends one, it
holds a declaration, or it holds nothing that is checked.
-/

namespace Handoff.Stylesheet

open Text

variable {lineComments : Bool} {depth : Int} {number : Nat}
  {text x y before after selector indent : List Char}

/-! ## Texts without comments -/

/-- No comment begins in a text. -/
structure IsUncommented (text : List Char) : Prop where
  block : ¬ ['/', '*'] <:+: text
  line : ¬ ['/', '/'] <:+: text

theorem isUncommented_of_not_mem (h : '/' ∉ text) : IsUncommented text :=
  ⟨fun found => h (found.subset (by simp)), fun found => h (found.subset (by simp))⟩

theorem pair_infix_append {a b : Char} (h : [a, b] <:+: x ++ y) :
    [a, b] <:+: x ∨ [a, b] <:+: y ∨ (x.getLast? = some a ∧ y.head? = some b) := by
  rcases List.infix_append_iff.mp h with h | h | ⟨front, back, split, hf, hb⟩
  · exact .inl h
  · exact .inr (.inl h)
  · match front, back, split with
    | [], _, rfl => exact .inr (.inl hb.isInfix)
    | [_], [_], rfl =>
      obtain ⟨front, rfl⟩ := hf
      obtain ⟨back, rfl⟩ := hb
      exact .inr (.inr ⟨by simp, rfl⟩)
    | [_, _], [], rfl => exact .inl hf.isInfix

theorem IsUncommented.append (hx : IsUncommented x) (hy : IsUncommented y)
    (seam : x.getLast? = some '/' → ∀ c ∈ y.head?, c ≠ '*' ∧ c ≠ '/') : IsUncommented (x ++ y) where
  block found := by
    rcases pair_infix_append found with h | h | ⟨last, head⟩
    · exact hx.block h
    · exact hy.block h
    · exact (seam last _ head).1 rfl
  line found := by
    rcases pair_infix_append found with h | h | ⟨last, head⟩
    · exact hx.line h
    · exact hy.line h
    · exact (seam last _ head).2 rfl

theorem blankFrom_of_isUncommented (h : IsUncommented text) (armed : Bool) (before : Option Char) :
    blankFrom lineComments (.code armed) before text = (text, false) := by
  induction text generalizing before with
  | nil => rfl
  | cons c rest ih =>
    have starts {d : Char} (absent : ¬ ['/', d] <:+: c :: rest) :
        (c == '/' && rest.head? == some d) = false := by
      rw [Bool.eq_false_iff]
      intro start
      obtain ⟨rfl, head⟩ := by simpa using start
      obtain ⟨tail, rfl⟩ : ∃ tail, rest = d :: tail := by
        cases rest with
        | nil => cases head
        | cons e tail => exact ⟨tail, by rw [Option.some.inj head]⟩
      exact absent ⟨[], tail, rfl⟩
    have behind : IsUncommented rest :=
      ⟨fun found => h.block (found.trans (List.suffix_cons c rest).isInfix),
        fun found => h.line (found.trans (List.suffix_cons c rest).isInfix)⟩
    rw [blankFrom, starts h.block, Bool.and_assoc _ (c == '/'), starts h.line, Bool.and_false]
    simp [ih behind]

theorem blankComments_of_isUncommented (h : IsUncommented text) :
    blankComments lineComments false text = (text, false) :=
  blankFrom_of_isUncommented h true none

/-- A text that can stand in a line of a rule: no comment begins in it, it holds no brace, and it
does not end the declaration or the line. -/
structure IsPlain (text : List Char) : Prop extends IsUncommented text where
  newline : '\n' ∉ text
  opening : '\x7b' ∉ text
  closing : '\x7d' ∉ text
  semicolon : ';' ∉ text

/-- Whether a character can stand anywhere in a plain text. -/
def isPlainChar (c : Char) : Bool := !(['/', '\n', '\x7b', '\x7d', ';'].contains c)

theorem isPlain_of_forall (h : ∀ c ∈ text, isPlainChar c = true) : IsPlain text where
  toIsUncommented := isUncommented_of_not_mem fun hm => absurd (h _ hm) (by decide)
  newline hm := absurd (h _ hm) (by decide)
  opening hm := absurd (h _ hm) (by decide)
  closing hm := absurd (h _ hm) (by decide)
  semicolon hm := absurd (h _ hm) (by decide)

theorem IsPlain.append (hx : IsPlain x) (hy : IsPlain y)
    (seam : x.getLast? = some '/' → ∀ c ∈ y.head?, c ≠ '*' ∧ c ≠ '/') : IsPlain (x ++ y) where
  toIsUncommented := hx.toIsUncommented.append hy.toIsUncommented seam
  newline := List.not_mem_append hx.newline hy.newline
  opening := List.not_mem_append hx.opening hy.opening
  closing := List.not_mem_append hx.closing hy.closing
  semicolon := List.not_mem_append hx.semicolon hy.semicolon

/-! ## What is found in a line -/

section Found

variable {offset : Nat} {finding : Finding} {raw front body : List Char}

/-- What can be found in a line: a fault of a selector, faults of the declarations in an end of the
line, and that the last of these is not ended. -/
inductive IsFound (number : Nat) (raw text : List Char) : Finding → Prop
  | selector {selector : List Char} {finding : Finding} : finding ∈ checkSelector number selector →
    IsFound number raw text finding
  | declaration {front body : List Char} {declaration : Declaration} {finding : Finding} :
    text = front ++ body → declaration ∈ declarations front.length body →
    finding ∈ checkDeclaration number declaration → IsFound number raw text finding
  | semicolon {front body : List Char} :
    text = front ++ body → declarations front.length body ≠ [] →
    IsFound number raw text (missingSemicolon number raw)

theorem isFound_declarations {trimmed : List Char} (split : text = front ++ body)
    (h : finding ∈ checkDeclarations number raw trimmed front.length body) :
    IsFound number raw text finding := by
  unfold checkDeclarations at h
  rcases List.mem_append.mp h with h | h
  · obtain ⟨declaration, hd, h⟩ := List.mem_flatMap.mp h
    exact .declaration split hd h
  · split at h
    · rename_i unended
      rw [List.mem_singleton.mp h]
      exact .semicolon split fun none => by simp [none] at unended
    · cases h

theorem afterLastBrace_eq (text : List Char) :
    ∃ front body, text = front ++ body ∧ afterLastBrace text = (body, front.length) := by
  refine ⟨text.rdropWhile (· != '\x7b'), text.rtakeWhile (· != '\x7b'), ?_, ?_⟩
  · exact (List.rdropWhile_append_rtakeWhile ..).symm
  · have whole :=
      congrArg List.length (List.rdropWhile_append_rtakeWhile (p := (· != '\x7b')) (l := text))
    rw [List.length_append] at whole
    rw [afterLastBrace, ← List.rtakeWhile, ← whole, Nat.add_sub_cancel]

/-- The declarations of a line that opens a rule are those behind its last opening brace. -/
theorem split_of_opening {depth : Int} {line selector : List Char}
    (h : LineReading.of depth text line = .opening selector body offset) :
    ∃ front, text = front ++ body ∧ front.length = offset := by
  obtain ⟨front, tail, split, last⟩ := afterLastBrace_eq text
  unfold LineReading.of at h
  split at h
  · rw [last] at h
    cases h
    exact ⟨front, split, rfl⟩
  · split at h
    · cases h
    · split at h
      · split at h <;> cases h
      · cases h

theorem isFound_of_mem {state : CheckState}
    (h : finding ∈ (checkLine lineComments state number raw).1) :
    IsFound number raw (blankComments lineComments state.inComment raw).1 finding := by
  unfold checkLine at h
  dsimp only at h
  split at h
  · rename_i reading
    obtain ⟨front, split, rfl⟩ := split_of_opening reading
    split at h
    · rcases List.mem_append.mp h with h | h
      · exact .selector h
      · exact isFound_declarations split h
    · exact isFound_declarations split h
  · exact isFound_declarations (List.nil_append _).symm h
  · cases h
  · cases h
  · cases h

end Found

/-! ## The kinds of lines -/

theorem depthChange_trim (text : List Char) : depthChange (trim text) = depthChange text := by
  rw [depthChange, depthChange, trim, count_trimBoth (by decide), count_trimBoth (by decide)]

theorem IsPlain.depthChange (h : IsPlain text) : depthChange text = 0 := by
  rw [Stylesheet.depthChange, List.count_eq_zero.mpr h.opening, List.count_eq_zero.mpr h.closing]
  rfl

theorem depthChange_append (x y : List Char) :
    depthChange (x ++ y) = depthChange x + depthChange y := by
  simp only [depthChange, List.count_append]
  omega

/-- However a line is read, its braces change the depth, and it leaves a comment open or not. -/
theorem checkLine_state (lineComments : Bool) (state : CheckState) (number : Nat)
    (raw : List Char) :
    (checkLine lineComments state number raw).2.depth =
        state.depth + depthChange (blankComments lineComments state.inComment raw).1 ∧
      (checkLine lineComments state number raw).2.inComment =
        (blankComments lineComments state.inComment raw).2 := by
  unfold checkLine
  dsimp only
  rw [depthChange_trim]
  split
  · split <;> exact ⟨rfl, rfl⟩
  all_goals exact ⟨rfl, rfl⟩

def openingLine (selector : List Char) : List Char := selector ++ [' ', '\x7b']

theorem checkLine_opening (plain : IsPlain selector) (depth : Int) (number : Nat) :
    checkLine lineComments { depth } number (openingLine selector) =
      (if depth ≤ 0 then checkSelector number (trim selector) else [], { depth := depth + 1 }) := by
  have uncommented : IsUncommented (openingLine selector) :=
    plain.toIsUncommented.append (isUncommented_of_not_mem (by decide)) fun _ => by decide
  have front : (openingLine selector).takeWhile (· != '\x7b') = selector ++ [' '] := by
    rw [openingLine, List.append_cons]
    exact takeWhile_ne_append (List.not_mem_append plain.opening (by decide)) []
  have reading : LineReading.of depth (openingLine selector) (trim (openingLine selector)) =
      .opening (trim selector) [] (openingLine selector).length := by
    have brace : (trim (openingLine selector)).contains '\x7b' = true := by
      simp [trim, mem_trimBoth_iff (p := isSpace) (c := '\x7b') (by decide), openingLine]
    rw [LineReading.of, if_pos brace, front, trim, trimBoth_append_right (by decide)]
    simp [afterLastBrace, openingLine]
  have change : depthChange (openingLine selector) = 1 := by
    rw [openingLine, depthChange_append, plain.depthChange]
    rfl
  have joined : joinSelector [] (trim selector) = trim selector := by
    simp [joinSelector, joinWith, trim, trimBoth_trimBoth]
  have none (line : List Char) : checkDeclarations number (openingLine selector) line
      (openingLine selector).length [] = [] := rfl
  simp only [checkLine, blankComments_of_isUncommented uncommented, reading,
    depthChange_trim, change, joined, none]
  split <;> simp

/-- A line without an opening brace that holds no declaration and no part of a selector. -/
theorem checkLine_other (uncommented : IsUncommented text) (unopened : '\x7b' ∉ text)
    (undeclared : 0 < depth → ':' ∉ text)
    (unselected : depth ≤ 0 → '\x7d' ∈ text ∨ (trim text).getLast? = some ';' ∨ trim text = [])
    (number : Nat) :
    checkLine lineComments { depth } number text = ([], { depth := depth + depthChange text }) := by
  have brace : '\x7b' ∉ trim text := by rwa [trim, mem_trimBoth_iff (by decide)]
  simp only [checkLine, blankComments_of_isUncommented uncommented, depthChange_trim]
  by_cases inside : 0 < depth
  · have colon : ':' ∉ trim text := by
      rw [trim, mem_trimBoth_iff (by decide)]
      exact undeclared inside
    simp [LineReading.of, brace, colon, Int.not_le.mpr inside]
  · have outside : depth ≤ 0 := Int.not_lt.mp inside
    by_cases closed : '\x7d' ∈ text
    · have closed : '\x7d' ∈ trim text := by rwa [trim, mem_trimBoth_iff (by decide)]
      simp [LineReading.of, brace, inside, closed]
    · have unclosed : '\x7d' ∉ trim text := by rwa [trim, mem_trimBoth_iff (by decide)]
      rcases (unselected outside).resolve_left closed with ended | blank
      · simp [LineReading.of, brace, inside, outside, unclosed, ended]
      · simp [LineReading.of, blank, inside, outside]

section Declaration

variable {property value : List Char}

def declarationLine (property value : List Char) : List Char :=
  property ++ ':' :: ' ' :: value ++ [';']

def declarationOf (property value : List Char) : Declaration :=
  { property := trim property
    value := withoutImportance value
    column := (property.takeWhile isSpace).length + 1
    valueColumn := property.length + 2 }

theorem IsPlain.declaration (hp : IsPlain property) (hv : IsPlain value) :
    IsPlain (property ++ ':' :: ' ' :: value) := by
  have colon : IsPlain [':', ' '] := isPlain_of_forall (by decide)
  have spaced : IsPlain ([':', ' '] ++ value) := colon.append hv fun last => absurd last (by decide)
  exact hp.append spaced fun _ => by simp

theorem ofPiece?_line (uncoloned : ':' ∉ property) (named : trim property ≠ [])
    (value : List Char) :
    Declaration.ofPiece? 0 (property ++ ':' :: ' ' :: value) =
      some (declarationOf property value) := by
  have solid : (property.takeWhile isSpace).length ≠ property.length := by
    intro full
    refine named ?_
    have spaces : ∀ c ∈ property, isSpace c = true := by
      rw [← List.takeWhile_eq_self_iff]
      exact (List.takeWhile_prefix _).eq_of_length full
    rw [trim, trimBoth, List.dropWhile_eq_nil_iff.mpr spaces]
    rfl
  have filled : (trim property).isEmpty = false := by simpa using named
  have space : isSpace ' ' = true := by decide
  rw [Declaration.ofPiece?, cutAt_append_cons uncoloned]
  simp [filled, declarationOf, List.takeWhile_append, solid, withoutImportance_cons_space space]

/-- A line inside of a rule that ends in a semicolon holds one declaration, if any. -/
theorem checkLine_ended (plain : IsPlain text) (colon : ':' ∈ text) (inside : 0 < depth)
    (number : Nat) :
    checkLine lineComments { depth } number (text ++ [';']) =
      ((Declaration.ofPiece? 0 text).toList.flatMap (checkDeclaration number), { depth }) := by
  have uncommented : IsUncommented (text ++ [';']) :=
    plain.toIsUncommented.append (isUncommented_of_not_mem (by decide)) fun _ => by decide
  have change : depthChange (text ++ [';']) = 0 := by
    rw [depthChange_append, plain.depthChange]
    rfl
  have brace : '\x7b' ∉ trim (text ++ [';']) := by
    rw [trim, mem_trimBoth_iff (by decide)]
    exact List.not_mem_append plain.opening (by decide)
  have colon : ':' ∈ trim (text ++ [';']) := by
    rw [trim, mem_trimBoth_iff (by decide)]
    exact List.mem_append_left _ colon
  have ended : (trim (text ++ [';'])).getLast? = some ';' := by
    rw [trim, trimBoth_append_cons (by decide)]
    simp
  have reading : LineReading.of depth (text ++ [';']) (trim (text ++ [';'])) = .declarations := by
    rw [LineReading.of, if_neg (by simpa using brace), if_pos (by simpa using ⟨inside, colon⟩)]
  have found : declarations 0 (text ++ [';']) = (Declaration.ofPiece? 0 text).toList := by
    have closing : '\x7d' ∉ text ++ [';'] := List.not_mem_append plain.closing (by decide)
    have whole : (text ++ [';']).takeWhile (· != '\x7d') = text ++ [';'] :=
      List.takeWhile_eq_self_iff.mpr fun c hc => by simpa using ne_of_mem_of_not_mem hc closing
    rw [declarations, whole, pieces_append_cons plain.semicolon, declarationsOf]
    exact List.append_nil _
  simp only [checkLine, blankComments_of_isUncommented uncommented, reading,
    depthChange_trim, change, checkDeclarations, found]
  simp [ended]

theorem checkLine_declaration (hp : IsPlain property) (hv : IsPlain value)
    (uncoloned : ':' ∉ property) (named : trim property ≠ []) (inside : 0 < depth) (number : Nat) :
    checkLine lineComments { depth } number (declarationLine property value) =
      (checkDeclaration number (declarationOf property value), { depth }) := by
  rw [declarationLine, checkLine_ended (hp.declaration hv) (by simp) inside,
    ofPiece?_line uncoloned named]
  simp

end Declaration

/-! ## Several lines -/

/-- Lines that take the depth of the braces from one value to another. What is found in them is told
by the number of the first. -/
structure Reads (lineComments : Bool) (depth : Int) (lines : List (List Char))
    (found : Nat → List Finding) (depth' : Int) : Prop where
  lined : ∀ line ∈ lines, '\n' ∉ line
  reads : ∀ number rest, checkLines lineComments { depth } number (lines ++ rest) =
    found number ++ checkLines lineComments { depth := depth' } (number + lines.length) rest

section Reads

variable {depth' depth'' : Int} {lines lines' : List (List Char)}
  {found found' : Nat → List Finding}

theorem reads_nil : Reads lineComments depth [] (fun _ => []) depth where
  lined := by simp
  reads _ _ := rfl

theorem reads_line (lined : '\n' ∉ text)
    (step : ∀ number, checkLine lineComments { depth } number text =
      (found number, { depth := depth' })) :
    Reads lineComments depth [text] found depth' where
  lined := List.forall_mem_singleton.mpr lined
  reads number rest := by simp [checkLines, step]

theorem Reads.append (h : Reads lineComments depth lines found depth')
    (h' : Reads lineComments depth' lines' found' depth'') :
    Reads lineComments depth (lines ++ lines')
      (fun number => found number ++ found' (number + lines.length)) depth'' where
  lined := List.forall_mem_append.mpr ⟨h.lined, h'.lined⟩
  reads number rest := by
    rw [List.append_assoc, h.reads, h'.reads, List.length_append, List.append_assoc, Nat.add_assoc]

theorem reads_opening (plain : IsPlain selector) :
    Reads lineComments depth [openingLine selector]
      (fun number => if depth ≤ 0 then checkSelector number (trim selector) else []) (depth + 1) :=
  reads_line (List.not_mem_append plain.newline (by decide)) (checkLine_opening plain depth)

theorem reads_declaration {property value : List Char} (hp : IsPlain property) (hv : IsPlain value)
    (uncoloned : ':' ∉ property) (named : trim property ≠ []) (inside : 0 < depth) :
    Reads lineComments depth [declarationLine property value]
      (fun number => checkDeclaration number (declarationOf property value)) depth :=
  reads_line (List.not_mem_append (hp.declaration hv).newline (by decide))
    (checkLine_declaration hp hv uncoloned named inside)

theorem reads_closing (spaces : ∀ c ∈ indent, c = ' ') :
    Reads lineComments depth [indent ++ ['\x7d']] (fun _ => []) (depth - 1) := by
  have plain : IsPlain indent := isPlain_of_forall fun c hc => spaces c hc ▸ by decide
  have change : depthChange (indent ++ ['\x7d']) = -1 := by
    rw [depthChange_append, plain.depthChange]
    rfl
  refine reads_line (List.not_mem_append plain.newline (by decide)) fun number => ?_
  rw [Int.sub_eq_add_neg, ← change]
  refine checkLine_other ?_ (List.not_mem_append plain.opening (by decide)) (fun _ => ?_)
    (fun _ => .inl (by simp)) number
  · exact plain.toIsUncommented.append (isUncommented_of_not_mem (by decide)) fun _ => by decide
  · exact List.not_mem_append (fun hm => absurd (spaces _ hm) (by decide)) (by decide)

theorem reads_blank : Reads lineComments depth [[]] (fun _ => []) depth := by
  refine reads_line List.not_mem_nil fun number => ?_
  have other : checkLine lineComments { depth } number [] =
      ([], { depth := depth + depthChange [] }) :=
    checkLine_other (isUncommented_of_not_mem List.not_mem_nil) List.not_mem_nil
      (fun _ => List.not_mem_nil) (fun _ => .inr (.inr rfl)) number
  simpa [depthChange] using other

/-- A line that ends in a semicolon is passed over outside of rules, and inside of them if it has no
colon. -/
theorem reads_statement (plain : IsPlain text) (uncoloned : 0 < depth → ':' ∉ text) :
    Reads lineComments depth [text ++ [';']] (fun _ => []) depth := by
  have change : depthChange (text ++ [';']) = 0 := by
    rw [depthChange_append, plain.depthChange]
    rfl
  refine reads_line (List.not_mem_append plain.newline (by decide)) fun number => ?_
  rw [checkLine_other ?_ (List.not_mem_append plain.opening (by decide)) (fun inside => ?_)
    (fun _ => .inr (.inl ?_)) number, change, Int.add_zero]
  · exact plain.toIsUncommented.append (isUncommented_of_not_mem (by decide)) fun _ => by decide
  · exact List.not_mem_append (uncoloned inside) (by decide)
  · rw [trim, trimBoth_append_cons (by decide)]
    simp

theorem Reads.checkLines_eq (h : Reads lineComments 0 lines found 0) :
    checkLines lineComments {} 1 lines = found 1 := by
  simpa [checkLines] using h.reads 1 []

theorem Reads.blank_behind (h : Reads lineComments 0 lines found 0) :
    Reads lineComments 0 (lines ++ [[]]) found 0 := by
  simpa using h.append reads_blank

/-- A text of lines that leave no brace open, each with a newline behind it. -/
theorem Reads.check_ended (h : Reads lineComments 0 lines found 0) :
    check lineComments (lines.flatMap (· ++ ['\n'])) = found 1 := by
  have cut : Text.lines (lines.flatMap (· ++ ['\n'])) = lines ++ [[]] := by
    rw [← List.append_nil (lines.flatMap _)]
    exact lines_ended h.lined []
  rw [check, cut, h.blank_behind.checkLines_eq]

/-- A text of lines that leave no brace open, with newlines between them. -/
theorem Reads.check_joined (h : Reads lineComments 0 lines found 0) :
    check lineComments (joinWith ['\n'] lines) = found 1 := by
  by_cases ne : lines = []
  · subst ne
    exact h.blank_behind.checkLines_eq
  · rw [check, lines_joined h.lined ne, h.checkLines_eq]

end Reads

end Handoff.Stylesheet
