import Handoff.Compiler.Output
import Handoff.Proofs.Json.Number
import Handoff.Proofs.Text.Ascii
import Handoff.Proofs.Text.Boundary

/-! # The output of a compiler, read back

A line that tells a diagnostic is read exactly as it is written. So the diagnostics are read back
from the lines that are printed for them, in order, whatever other lines stand between these.
-/

namespace Handoff

open Text

/-! ## Numerals -/

namespace Text

theorem decimalValue_toDigits (n : Nat) : decimalValue (Nat.toDigits 10 n) = n := by
  have value (digits : List Char) (all : ∀ c ∈ digits, c.isDigit = true) (start : Nat) :
      digits.foldl (fun value c => 10 * value + (digitValue? c).getD 0) start =
        Nat.ofDigitChars 10 digits start := by
    induction digits generalizing start with
    | nil => rfl
    | cons c digits ih =>
      obtain ⟨first, others⟩ := List.forall_mem_cons.mp all
      rw [List.foldl_cons, ih others, digitValue?_of_isDigit first, Option.getD_some,
        Nat.ofDigitChars_cons]
  rw [decimalValue, value _ (Json.isDigits_toDigits n).2, Nat.ofDigitChars_ten_toDigits]

end Text

theorem wholeOfDigits_toString {n : Nat} (short : (toString n).length ≤ digitLimit) :
    wholeOfDigits (toString n).toList = .ok (n : Int) := by
  rw [wholeOfDigits, String.length_toList, limitDigits_eq_ok_iff.mpr short, toList_toString,
    decimalValue_toDigits]

theorem length_toString_succ_le (n : Nat) :
    (toString (n + 1)).length ≤ (toString n).length + 1 := by
  have fits : n < 10 ^ (toString n).length := (Nat.length_repr_le_iff Nat.length_repr_pos).mp le_rfl
  refine (Nat.length_repr_le_iff (Nat.succ_pos _)).mpr ?_
  calc n + 1 ≤ 10 ^ (toString n).length := fits
    _ < 10 ^ ((toString n).length + 1) := Nat.pow_lt_pow_right (by decide) (Nat.lt_succ_self _)

namespace Compiler

section Lines

variable {text digits rest front : List Char}

/-! ## The parts of a line -/

def IsNumeral (digits : List Char) : Prop := digits ≠ [] ∧ ∀ c ∈ digits, isDecimal c = true

namespace OutputLine

/-- The text of a line behind the bracket that opens the place. -/
def render (parts : OutputLine) : List Char :=
  parts.line ++ ',' :: (parts.column ++ ("): ".toList ++ (parts.category.toList ++ (" TS".toList ++
    (parts.code ++ (": ".toList ++ parts.message))))))

/-- The place and the code are numerals, and the category is one that is known. -/
structure IsWritten (parts : OutputLine) : Prop where
  line : IsNumeral parts.line
  column : IsNumeral parts.column
  category : parts.category ∈ outputCategories
  code : IsNumeral parts.code

end OutputLine

theorem digitRun?_eq_some_iff : digitRun? text = some (digits, rest) ↔
    IsNumeral digits ∧ text = digits ++ rest ∧ ∀ c ∈ rest.head?, isDecimal c = false := by
  constructor
  · intro read
    unfold digitRun? at read
    split at read
    · cases read
    · rename_i filled
      cases read
      refine ⟨⟨filled, fun c hc => List.mem_takeWhile_imp hc⟩, List.takeWhile_append_dropWhile.symm,
        fun c hc => ?_⟩
      have first := List.head?_dropWhile_not isDecimal text
      rwa [Option.mem_def.mp hc] at first
  · rintro ⟨⟨ne, all⟩, rfl, stops⟩
    have none : rest.takeWhile isDecimal = [] ∧ rest.dropWhile isDecimal = rest := by
      cases rest with
      | nil => exact ⟨rfl, rfl⟩
      | cons c rest => simp [stops c rfl]
    rw [digitRun?, List.takeWhile_append_of_pos all, List.dropWhile_append_of_pos all,
      none.1, none.2, List.append_nil]
    obtain ⟨c, digits, rfl⟩ := List.exists_cons_of_ne_nil ne
    rfl

theorem IsNumeral.digitRun?_append (h : IsNumeral digits) (mark : Char)
    (stops : isDecimal mark = false)
    (rest : List Char) : digitRun? (digits ++ mark :: rest) = some (digits, mark :: rest) := by
  refine digitRun?_eq_some_iff.mpr ⟨h, rfl, ?_⟩
  rintro c ⟨⟩
  exact stops

theorem afterPiece?_eq_some_iff {piece : String} :
    afterPiece? piece text = some rest ↔ text = piece.toList ++ rest := by
  rw [afterPiece?, ← String.length_toList]
  constructor
  · intro read
    split at read
    · rename_i starts
      obtain ⟨behind, rfl⟩ := List.isPrefixOf_iff_prefix.mp starts
      rw [List.drop_left] at read
      rw [Option.some.inj read]
    · cases read
  · rintro rfl
    rw [if_pos (List.isPrefixOf_iff_prefix.mpr (List.prefix_append _ _)), List.drop_left]

theorem category?_eq_some_iff {name : String} :
    category? text = some (name, rest) ↔ name ∈ outputCategories ∧ text = name.toList ++ rest := by
  constructor
  · intro read
    obtain ⟨known, listed, read⟩ := List.exists_of_findSome?_eq_some read
    obtain ⟨behind, starts, he⟩ := Option.map_eq_some_iff.mp read
    cases he
    exact ⟨listed, afterPiece?_eq_some_iff.mp starts⟩
  · rintro ⟨listed, rfl⟩
    -- the categories start with three different letters
    simp only [outputCategories, List.mem_cons, List.not_mem_nil, or_false] at listed
    rcases listed with rfl | rfl | rfl <;> rfl

/-- What is read behind the bracket that opens the place is what is written there. -/
theorem placeAndMessage?_eq_some_iff {parts : OutputLine} :
    placeAndMessage? text = some parts ↔ parts.IsWritten ∧ text = parts.render := by
  constructor
  · intro read
    obtain ⟨⟨line, _⟩, lined, read⟩ := Option.bind_eq_some_iff.mp read
    obtain ⟨_, comma, read⟩ := Option.bind_eq_some_iff.mp read
    obtain ⟨⟨column, _⟩, columned, read⟩ := Option.bind_eq_some_iff.mp read
    obtain ⟨_, bracket, read⟩ := Option.bind_eq_some_iff.mp read
    obtain ⟨⟨category, _⟩, categorised, read⟩ := Option.bind_eq_some_iff.mp read
    obtain ⟨_, mark, read⟩ := Option.bind_eq_some_iff.mp read
    obtain ⟨⟨code, _⟩, coded, read⟩ := Option.bind_eq_some_iff.mp read
    obtain ⟨message, colon, made⟩ := Option.bind_eq_some_iff.mp read
    obtain ⟨line, rfl, -⟩ := digitRun?_eq_some_iff.mp lined
    obtain rfl := afterPiece?_eq_some_iff.mp comma
    obtain ⟨column, rfl, -⟩ := digitRun?_eq_some_iff.mp columned
    obtain rfl := afterPiece?_eq_some_iff.mp bracket
    obtain ⟨category, rfl⟩ := category?_eq_some_iff.mp categorised
    obtain rfl := afterPiece?_eq_some_iff.mp mark
    obtain ⟨code, rfl, -⟩ := digitRun?_eq_some_iff.mp coded
    obtain rfl := afterPiece?_eq_some_iff.mp colon
    cases made
    exact ⟨⟨line, column, category, code⟩, rfl⟩
  · rintro ⟨⟨line, column, category, code⟩, rfl⟩
    refine Option.bind_eq_some_iff.mpr ⟨_, line.digitRun?_append ',' (by decide) _,
      Option.bind_eq_some_iff.mpr ⟨_, rfl, ?_⟩⟩
    refine Option.bind_eq_some_iff.mpr ⟨_, column.digitRun?_append ')' (by decide) _,
      Option.bind_eq_some_iff.mpr ⟨_, rfl, ?_⟩⟩
    refine Option.bind_eq_some_iff.mpr ⟨_, category?_eq_some_iff.mpr ⟨category, rfl⟩,
      Option.bind_eq_some_iff.mpr ⟨_, rfl, ?_⟩⟩
    exact Option.bind_eq_some_iff.mpr ⟨_, code.digitRun?_append ':' (by decide) _,
      Option.bind_eq_some_iff.mpr ⟨_, rfl, rfl⟩⟩

/-! ## Lines -/

theorem outputLineFrom?_append (free : '(' ∉ front) (text : List Char) :
    outputLineFrom? (front ++ text) = outputLineFrom? text := by
  induction front with
  | nil => rfl
  | cons c front ih =>
    obtain ⟨hc, hf⟩ := List.ne_and_not_mem_of_not_mem_cons free
    have other : (c == '(') = false := beq_false_of_ne hc.symm
    rw [List.cons_append, outputLineFrom?, other, if_neg Bool.false_ne_true, ih hf]

theorem outputLineFrom?_bracket {parts : OutputLine} (written : parts.IsWritten) :
    outputLineFrom? ('(' :: parts.render) = some parts := by
  rw [outputLineFrom?, placeAndMessage?_eq_some_iff.mpr ⟨written, rfl⟩]
  rfl

theorem outputLineFrom?_cons_eq_none_iff {c : Char} : outputLineFrom? (c :: rest) = none ↔
    (c = '(' → placeAndMessage? rest = none) ∧ outputLineFrom? rest = none := by
  rw [outputLineFrom?]
  rcases eq_or_ne c '(' with rfl | other
  · cases placeAndMessage? rest <;> simp
  · simp [other]

/-- Nothing is read if and only if there is no bracket behind which something is written. -/
theorem outputLineFrom?_eq_none_iff : outputLineFrom? text = none ↔
    ∀ (front : List Char) (parts : OutputLine), parts.IsWritten →
    text ≠ front ++ '(' :: parts.render := by
  induction text with
  | nil => simp [outputLineFrom?]
  | cons c rest ih =>
    rw [outputLineFrom?_cons_eq_none_iff, ih]
    constructor
    · rintro ⟨here, behind⟩ front parts written he
      rcases List.cons_eq_append_iff.mp he with ⟨rfl, he⟩ | ⟨front, rfl, he⟩
      · obtain ⟨rfl, rfl⟩ := List.cons.inj he
        have read := placeAndMessage?_eq_some_iff.mpr ⟨written, rfl⟩
        exact absurd (here rfl) (Option.ne_none_iff_exists'.mpr ⟨parts, read⟩)
      · exact behind front parts written (List.cons.inj he).2
    · intro absent
      refine ⟨?_, fun front parts written he => absent (c :: front) parts written (he ▸ rfl)⟩
      rintro rfl
      by_contra read
      obtain ⟨parts, read⟩ := Option.ne_none_iff_exists'.mp read
      obtain ⟨written, rfl⟩ := placeAndMessage?_eq_some_iff.mp read
      exact absent [] parts written rfl

/-- A line tells a diagnostic, whatever space is around it: a file, and behind a bracket the place,
the category, the code and the message. -/
def TellsDiagnostic (line : List Char) : Prop :=
  ∃ (file : List Char) (parts : OutputLine),
    file ≠ [] ∧ parts.IsWritten ∧ trim line = file ++ '(' :: parts.render

theorem tellsDiagnostic_iff {line : List Char} : TellsDiagnostic line ↔
    outputLine? (trim line) ≠ none := by
  rw [outputLine?, ne_eq, outputLineFrom?_eq_none_iff]
  push Not
  constructor
  · rintro ⟨file, parts, ne, written, he⟩
    obtain ⟨c, file, rfl⟩ := List.exists_cons_of_ne_nil ne
    exact ⟨file, parts, written, by rw [he]; rfl⟩
  · rintro ⟨front, parts, written, he⟩
    cases trimmed : trim line with
    | nil => simp [trimmed] at he
    | cons c rest =>
      rw [trimmed, List.drop_one, List.tail_cons] at he
      exact ⟨c :: front, parts, List.cons_ne_nil _ _, written, by rw [trimmed, he]; rfl⟩

instance (line : List Char) : Decidable (TellsDiagnostic line) :=
  decidable_of_iff _ tellsDiagnostic_iff.symm

theorem OutputLine.render_append (parts : OutputLine) (more : List Char) :
    parts.render ++ more = OutputLine.render { parts with message := parts.message ++ more } := by
  simp [OutputLine.render]

theorem OutputLine.message_suffix_render (parts : OutputLine) : parts.message <:+ parts.render :=
  ⟨OutputLine.render { parts with message := [] }, by rw [render_append]; rfl⟩

theorem TellsDiagnostic.mono {part : List Char} (h : TellsDiagnostic part)
    (inside : part <:+: text) :
    TellsDiagnostic text := by
  obtain ⟨file, parts, ne, written, he⟩ := h
  obtain ⟨front, back, rfl⟩ := inside
  obtain ⟨before, after, around, -, -⟩ := trimBoth_around isSpace part
  have solid : trim part ≠ [] := by rw [he]; simp
  have kept :=
    trimBoth_around_solid (front ++ before) (after ++ back) solid (head?_trimBoth isSpace part)
    (getLast?_trimBoth isSpace part)
  refine ⟨(front ++ before).dropWhile isSpace ++ file,
    { parts with message := parts.message ++ (after ++ back).rdropWhile isSpace }, by simp [ne],
    ⟨written.line, written.column, written.category, written.code⟩, ?_⟩
  calc trim (front ++ part ++ back)
      = trim (front ++ before ++ trim part ++ (after ++ back)) := by
        refine congrArg trim ((congrArg (front ++ · ++ back) around).trans ?_)
        simp only [List.append_assoc]
        rfl
    _ = (front ++ before).dropWhile isSpace ++ file ++
          '(' :: (parts.render ++ (after ++ back).rdropWhile isSpace) := by
        refine kept.trans ?_
        rw [he]
        simp only [List.append_assoc, List.cons_append]
    _ = _ := by rw [OutputLine.render_append]

end Lines

/-! ## What is printed -/

structure Printed where
  file : String
  line : Nat
  character : Nat
  code : Nat
  category : String
  message : String
  solid : ∃ c ∈ file.toList, isSpace c = false
  free : ∀ c ∈ file.toList, c ≠ '(' ∧ isLineBoundary c = false
  known : category ∈ ["error", "warning", "message"]
  short : ∀ n ∈ [line, character, code], (toString n).length < 4300
  told : message ≠ ""
  single : ∀ c ∈ message.toList, isLineBoundary c = false
  trimmed : ∀ c ∈ message.toList.getLast?, isSpace c = false

namespace Printed

def text (entry : Printed) : String :=
  s!"{entry.file}({entry.line + 1},{entry.character + 1}): {entry.category} TS{entry.code}: {entry.message}"

def diagnostic (entry : Printed) : Diagnostic :=
  { line := entry.line, character := entry.character, code := entry.code, message := entry.message
    category := entry.category }

def parts (entry : Printed) : OutputLine :=
  ⟨(toString (entry.line + 1)).toList, (toString (entry.character + 1)).toList, entry.category,
    (toString entry.code).toList, entry.message.toList⟩

theorem isWritten_parts (entry : Printed) : entry.parts.IsWritten := by
  have numeral (n : Nat) : IsNumeral (toString n).toList := by
    rw [toList_toString]
    refine ⟨Nat.toDigits_ne_nil, fun c hc => ?_⟩
    rw [isDecimal, digitValue?_of_isDigit ((Json.isDigits_toDigits n).2 c hc)]
    rfl
  exact ⟨numeral _, numeral _, entry.known, numeral _⟩

theorem toList_text (entry : Printed) :
    entry.text.toList = entry.file.toList ++ '(' :: entry.parts.render := by
  simp [text, parts, OutputLine.render]
  rfl

theorem dropWhile_ne_nil (entry : Printed) : entry.file.toList.dropWhile isSpace ≠ [] := by
  obtain ⟨c, hc, solid⟩ := entry.solid
  intro blank
  exact ne_true_of_eq_false solid (List.dropWhile_eq_nil_iff.mp blank c hc)

theorem trim_text (entry : Printed) :
    trim entry.text.toList = entry.file.toList.dropWhile isSpace ++ '(' :: entry.parts.render := by
  have split : entry.text.toList = entry.file.toList.takeWhile isSpace ++
      (entry.file.toList.dropWhile isSpace ++ '(' :: entry.parts.render) := by
    rw [toList_text, ← List.append_assoc, List.takeWhile_append_dropWhile]
  rw [split, trim, trimBoth_append_left fun c hc => List.mem_takeWhile_imp hc]
  refine trimBoth_eq_self (fun c hc => ?_) (fun c hc => entry.trimmed c ?_)
  · have first := List.head?_dropWhile_not isSpace entry.file.toList
    rw [List.head?_append_of_ne_nil _ entry.dropWhile_ne_nil] at hc
    rwa [Option.mem_def.mp hc] at first
  · have said : entry.parts.message ≠ [] := fun none =>
      entry.told (String.toList_eq_nil_iff.mp none)
    obtain ⟨front, hf⟩ := entry.parts.message_suffix_render
    rwa [← hf, ← List.cons_append, ← List.append_assoc, List.getLast?_append_of_ne_nil _ said] at hc

theorem outputLine?_text (entry : Printed) :
    outputLine? (trim entry.text.toList) = some entry.parts := by
  obtain ⟨c, file, hf⟩ := List.exists_cons_of_ne_nil entry.dropWhile_ne_nil
  have unbracketed : '(' ∉ file := by
    intro hm
    have inside : '(' ∈ entry.file.toList.dropWhile isSpace := hf ▸ List.mem_cons_of_mem c hm
    exact (entry.free _ ((List.dropWhile_sublist _).subset inside)).1 rfl
  rw [outputLine?, trim_text, hf, List.cons_append, List.drop_one, List.tail_cons,
    outputLineFrom?_append unbracketed, outputLineFrom?_bracket entry.isWritten_parts]

theorem diagnostic_parts (entry : Printed) : entry.parts.diagnostic = .ok entry.diagnostic := by
  have short (n : Nat) (hn : n ∈ [entry.line, entry.character, entry.code]) :
      (toString n).length + 1 ≤ digitLimit := entry.short n hn
  have next (n : Nat) (hn : n ∈ [entry.line, entry.character, entry.code]) :
      (toString (n + 1)).length ≤ digitLimit := (length_toString_succ_le n).trans (short n hn)
  have line : wholeOfDigits entry.parts.line = .ok _ :=
    wholeOfDigits_toString (next entry.line (by simp))
  have character : wholeOfDigits entry.parts.column = .ok _ :=
    wholeOfDigits_toString (next entry.character (by simp))
  have code : wholeOfDigits entry.parts.code = .ok _ :=
    wholeOfDigits_toString (Nat.le_of_succ_le (short entry.code (by simp)))
  have back (n : Nat) : ((n + 1 : Nat) : Int) - 1 = n := by omega
  rw [OutputLine.diagnostic, line, character, code]
  refine congrArg Except.ok ?_
  rw [diagnostic, back, back]
  simp [parts]

theorem boundaryLines_text (entry : Printed) :
    boundaryLines entry.text.toList = [entry.text.toList] := by
  refine boundaryLines_of_free ?_ (by simp [toList_text])
  have number (n : Nat) : ∀ c ∈ (toString n).toList, isLineBoundary c = false := fun c hc => by
    rw [toList_toString] at hc
    exact isLineBoundary_of_isDigit ((Json.isDigits_toDigits n).2 c hc)
  have category : ∀ c ∈ entry.category.toList, isLineBoundary c = false := by
    have all : ∀ name ∈ ["error", "warning", "message"], ∀ c ∈ name.toList,
        isLineBoundary c = false := by
      decide
    exact all _ entry.known
  rw [toList_text]
  simp only [OutputLine.render, parts, List.forall_mem_append, List.forall_mem_cons]
  exact ⟨fun c hc => (entry.free c hc).2,
    by decide, number _, by decide, number _, by decide, category, by decide,
    number _, by decide, entry.single⟩

end Printed

/-- A line of the output: it is printed for a diagnostic, or it is any other. -/
inductive OutputEntry
  | diagnostic (entry : Printed)
  | other (line : String) (tellsNone : ¬ TellsDiagnostic line.toList)

namespace OutputEntry

def text : OutputEntry → String
  | diagnostic entry => entry.text
  | other line _ => line

def diagnostic? : OutputEntry → Option Diagnostic
  | diagnostic entry => some entry.diagnostic
  | other _ _ => none

theorem read_text (entry : OutputEntry) :
    ((boundaryLines entry.text.toList).filterMap fun line => outputLine? (trim line)).mapM
      OutputLine.diagnostic =
      .ok entry.diagnostic?.toList := by
  cases entry with
  | diagnostic entry =>
    have read : [entry.text.toList].filterMap (fun line => outputLine? (trim line)) =
        [entry.parts] :=
      List.filterMap_cons_some entry.outputLine?_text
    rw [text, entry.boundaryLines_text, read, List.mapM_cons, entry.diagnostic_parts]
    rfl
  | other line tellsNone =>
    have nothing :
        (boundaryLines line.toList).filterMap (fun line => outputLine? (trim line)) = [] := by
      rw [List.filterMap_eq_nil_iff]
      intro part hp
      by_contra read
      exact tellsNone ((tellsDiagnostic_iff.mpr read).mono (infix_of_mem_boundaryLines hp))
    rw [text, nothing]
    rfl

end OutputEntry

/-- Diagnostics that are printed, each on a line of its own and with other lines between them, are
read back in their order. -/
theorem outputDiagnostics_printed (entries : List OutputEntry) :
    outputDiagnostics (joinLines (entries.map OutputEntry.text)).toList =
      .ok (entries.filterMap OutputEntry.diagnostic?) := by
  rw [outputDiagnostics, filterMap_boundaryLines_joinLines rfl, List.flatMap_map]
  induction entries with
  | nil => rfl
  | cons entry entries ih =>
    rw [List.flatMap_cons, List.mapM_append, entry.read_text, ih, List.filterMap_cons]
    cases entry.diagnostic? <;> rfl

def quotingDiagnostic : Printed where
  file := "src/Icon.tsx"
  line := 2
  character := 6
  code := 2322
  category := "error"
  message := "See Icon.d.ts(9,1): warning TS6133: 'x' is unused."
  solid := by decide
  free := by decide
  known := by decide
  short := by decide
  told := by decide
  single := by decide
  trimmed := by decide

example : outputDiagnostics (joinLines ["Version 5.4.0", quotingDiagnostic.text,
    "Found 1 error."]).toList =
    .ok [quotingDiagnostic.diagnostic] := by decide +kernel

end Compiler

end Handoff
