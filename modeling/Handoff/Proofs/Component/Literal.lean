import Handoff.Component.Literal
import Handoff.Number.Text
import Handoff.Proofs.Text.Ascii

/-! # What default values say

A script reads a default value as a decimal number or as a string in single quotes. A value that is
written as a string always reads back as itself, but it is a string of one line only if no line ends
in the value. A numeral stays as it is, so a script reads it only if its digits are those of ASCII
and no zero stands before another digit.
-/

namespace Handoff.Component

variable {c : Char} {value literal text whole : List Char} {digit? other? : Char → Option Nat}
  {x : Decimal} {read n : Nat}

/-! ## Numbers -/

/-- The number that a run of digits spells behind the number read so far. -/
def digitsFrom? (digit? : Char → Option Nat) : Nat → List Char → Option Nat
  | read, [] => some read
  | read, c :: rest => (digit? c).bind fun d => digitsFrom? digit? (10 * read + d) rest

/-- A text spells a number in the digits of a class: a run of digits, or two runs around a point. -/
inductive SpellsNumber (digit? : Char → Option Nat) : List Char → Decimal → Prop
  | whole {whole : List Char} {n : Nat} : whole ≠ [] → digitsFrom? digit? 0 whole = some n →
      SpellsNumber digit? whole ⟨n, 0⟩
  | fraction {whole fraction : List Char} {n : Nat} : whole ≠ [] → fraction ≠ [] →
      digitsFrom? digit? 0 (whole ++ fraction) = some n →
      SpellsNumber digit? (whole ++ '.' :: fraction) ⟨n, -fraction.length⟩

def scriptDigit? (c : Char) : Option Nat := if c.isDigit then some (c.toNat - '0'.toNat) else none

def SameNumber (x y : Decimal) : Prop :=
  x.digits * Nat.pow 10 (x.exponent - y.exponent).toNat =
    y.digits * Nat.pow 10 (y.exponent - x.exponent).toNat

/-- A text begins with a zero and another digit, which scripts refuse. -/
def HasLeadingZero (text : List Char) : Prop := ∃ c rest, text = '0' :: c :: rest ∧ c.isDigit = true

def IsScriptNumber (text : List Char) (x : Decimal) : Prop :=
  SpellsNumber scriptDigit? text x ∧ ¬HasLeadingZero text

theorem sameNumber_refl (x : Decimal) : SameNumber x x := rfl

theorem isSome_digitsFrom?_iff : (digitsFrom? digit? read text).isSome ↔
    ∀ c ∈ text, (digit? c).isSome := by
  induction text generalizing read with
  | nil => simp [digitsFrom?]
  | cons c rest ih => cases hd : digit? c <;> simp [digitsFrom?, hd, ih]

theorem forall_isSome_of_spelled (h : digitsFrom? digit? read text = some n) :
    ∀ c ∈ text, (digit? c).isSome :=
  isSome_digitsFrom?_iff.mp (Option.isSome_of_eq_some h)

theorem exists_spelled (read : Nat) (digits : ∀ c ∈ text, (digit? c).isSome) :
    ∃ n, digitsFrom? digit? read text = some n :=
  Option.isSome_iff_exists.mp (isSome_digitsFrom?_iff.mpr digits)

theorem digitsFrom?_of_agrees (agrees : ∀ c d, digit? c = some d → other? c = some d)
    (h : digitsFrom? digit? read text = some n) : digitsFrom? other? read text = some n := by
  induction text generalizing read with
  | nil => exact h
  | cons c rest ih =>
    obtain ⟨d, hd, left⟩ := Option.bind_eq_some_iff.mp h
    rw [digitsFrom?, agrees c d hd]
    exact ih left

theorem SpellsNumber.of_agrees (agrees : ∀ c d, digit? c = some d → other? c = some d)
    (h : SpellsNumber digit? text x) : SpellsNumber other? text x := by
  cases h with
  | whole filled spelled => exact .whole filled (digitsFrom?_of_agrees agrees spelled)
  | fraction filled behind spelled =>
    exact .fraction filled behind (digitsFrom?_of_agrees agrees spelled)

theorem digitValue?_of_scriptDigit? (c : Char) (d : Nat) (h : scriptDigit? c = some d) :
    Text.digitValue? c = some d := by
  unfold scriptDigit? at h
  split at h
  · rw [Text.digitValue?_of_isDigit ‹_›]
    exact h
  · cases h

theorem IsScriptNumber.spells (h : IsScriptNumber text x) : SpellsNumber Text.digitValue? text x :=
  h.1.of_agrees digitValue?_of_scriptDigit?

theorem SpellsNumber.head (h : SpellsNumber digit? text x) : ∃ c rest, text = c :: rest ∧
    (digit? c).isSome := by
  cases h with
  | whole filled spelled =>
    obtain ⟨c, left, rfl⟩ := List.exists_cons_of_ne_nil filled
    exact ⟨c, left, rfl, forall_isSome_of_spelled spelled c List.mem_cons_self⟩
  | fraction filled _ spelled =>
    obtain ⟨c, left, rfl⟩ := List.exists_cons_of_ne_nil filled
    exact ⟨c, _, rfl, forall_isSome_of_spelled spelled c List.mem_cons_self⟩

theorem not_isDecimal_point : Text.isDecimal '.' = false := by decide

theorem isNumeral_whole (filled : whole ≠ []) (digits : ∀ c ∈ whole, Text.isDecimal c = true) :
    isNumeral whole = true := by
  have run : whole.takeWhile Text.isDecimal = whole := List.takeWhile_eq_self_iff.mpr digits
  have none : whole.dropWhile Text.isDecimal = [] := List.dropWhile_eq_nil_iff.mpr digits
  simp [isNumeral, run, none, filled]

theorem isNumeral_fraction {fraction : List Char} (filled : whole ≠ []) (behind : fraction ≠ [])
    (digits : ∀ c ∈ whole ++ fraction, Text.isDecimal c = true) :
    isNumeral (whole ++ '.' :: fraction) = true := by
  obtain ⟨front, back⟩ := List.forall_mem_append.mp digits
  have run : (whole ++ '.' :: fraction).takeWhile Text.isDecimal = whole := by
    rw [List.takeWhile_append_of_pos front, List.takeWhile_cons_of_neg
      (by simp [not_isDecimal_point]), List.append_nil]
  have left : (whole ++ '.' :: fraction).dropWhile Text.isDecimal = '.' :: fraction := by
    rw [List.dropWhile_append_of_pos front, List.dropWhile_cons_of_neg
      (by simp [not_isDecimal_point])]
  have all : fraction.all Text.isDecimal = true := List.all_eq_true.mpr back
  simp [isNumeral, run, left, filled, behind, all]

theorem isNumeral_eq_true_iff :
    isNumeral value = true ↔ ∃ x, SpellsNumber Text.digitValue? value x := by
  constructor
  · intro h
    have split := List.takeWhile_append_dropWhile (p := Text.isDecimal) (l := value)
    have front : ∀ c ∈ value.takeWhile Text.isDecimal, Text.isDecimal c = true := by
      intro c hc
      exact List.mem_takeWhile_imp hc
    obtain ⟨filled, left⟩ := Bool.and_eq_true_iff.mp h
    generalize value.takeWhile Text.isDecimal = whole at split front filled
    generalize value.dropWhile Text.isDecimal = behind at split left
    replace filled : whole ≠ [] := by simpa using filled
    subst split
    split at left
    · obtain ⟨n, hn⟩ := exists_spelled 0 front
      exact ⟨⟨n, 0⟩, by simpa using SpellsNumber.whole filled hn⟩
    · rename_i fraction
      obtain ⟨more, back⟩ := Bool.and_eq_true_iff.mp left
      have digits : ∀ c ∈ whole ++ fraction, Text.isDecimal c = true :=
        List.forall_mem_append.mpr ⟨front, List.all_eq_true.mp back⟩
      obtain ⟨n, hn⟩ := exists_spelled 0 digits
      exact ⟨_, SpellsNumber.fraction filled (by simpa using more) hn⟩
    · cases left
  · rintro ⟨x, h⟩
    cases h with
    | whole filled spelled =>
      exact isNumeral_whole filled (forall_isSome_of_spelled spelled)
    | fraction filled behind spelled =>
      exact isNumeral_fraction filled behind (forall_isSome_of_spelled spelled)

/-! ## Strings -/

/-- The one character that scripts read for a character behind a backslash. The codes of characters,
which begin with a digit, an `x` or a `u`, and the ends of lines are not read here: no written
string has one there. -/
def escaped? (c : Char) : Option Char :=
  match c with
  | 'b' => some '\x08'
  | 't' => some '\t'
  | 'n' => some '\n'
  | 'v' => some '\x0b'
  | 'f' => some '\x0c'
  | 'r' => some '\r'
  | 'x' | 'u' | '\n' | '\r' | '\u2028' | '\u2029' => none
  | c => if c.isDigit then none else some c

/-- What a string says behind its opening quote, when the quote that closes it is the last
character. -/
def stringTail? : List Char → Option (List Char)
  | [] => none
  | '\\' :: c :: rest => (escaped? c).bind fun d => (stringTail? rest).map (d :: ·)
  | '\'' :: rest => if rest.isEmpty then some [] else none
  | c :: rest => (stringTail? rest).map (c :: ·)

def stringValue? : List Char → Option (List Char)
  | '\'' :: rest => stringTail? rest
  | _ => none

def IsOneLine (text : List Char) : Prop := '\n' ∉ text ∧ '\r' ∉ text

/-- A string of a script for a value: it is closed by its last character only, read with its escapes
it says the value, and it has one line. -/
structure IsStringFor (value literal : List Char) : Prop where
  reads : stringValue? literal = some value
  line : IsOneLine literal

theorem stringTail?_literalChar (c : Char) (rest : List Char) :
    stringTail? (literalChar c ++ rest) = (stringTail? rest).map (c :: ·) := by
  unfold literalChar
  split
  · rename_i slash
    obtain rfl := eq_of_beq slash
    simp [stringTail?, escaped?]
  · split
    · rename_i quote
      obtain rfl := eq_of_beq quote
      simp [stringTail?, escaped?]
    · rename_i slash quote
      rw [List.singleton_append, stringTail?]
      · intro d left same
        exact absurd (by simp_all) slash
      · intro same
        exact absurd (by simp_all) quote

/-- A written string reads back as its value, with any quotes and backslashes in it. -/
theorem stringValue?_stringLiteral (value : List Char) :
    stringValue? (stringLiteral value) = some value := by
  have tail : stringTail? (value.flatMap literalChar ++ ['\'']) = some value := by
    induction value with
    | nil => rfl
    | cons c value ih =>
      rw [List.flatMap_cons, List.append_assoc, stringTail?_literalChar, ih, Option.map_some]
  exact tail

theorem mem_stringLiteral_iff (slash : c ≠ '\\') (quote : c ≠ '\'') : c ∈ stringLiteral value ↔
    c ∈ value := by
  have piece (d : Char) : c ∈ literalChar d ↔ c = d := by
    unfold literalChar
    split
    · rename_i same
      simp [eq_of_beq same]
    · split
      · rename_i same
        simp [eq_of_beq same, slash]
      · simp
  simp [stringLiteral, List.mem_flatMap, piece, quote]

theorem isStringFor_stringLiteral_iff : IsStringFor value (stringLiteral value) ↔
    IsOneLine value := by
  have line : IsOneLine (stringLiteral value) ↔ IsOneLine value := by
    simp [IsOneLine, mem_stringLiteral_iff]
  constructor
  · intro h
    exact line.mp h.line
  · intro h
    exact ⟨stringValue?_stringLiteral value, line.mpr h⟩

/-! ## Defaults -/

/-- A default denotes a value: it is the number that the value spells, or a string for it. -/
inductive Denotes (value : List Char) : List Char → Prop
  | number {literal : List Char} {x y : Decimal} : SpellsNumber Text.digitValue? value x →
      IsScriptNumber literal y → SameNumber x y → Denotes value literal
  | string {literal : List Char} : IsStringFor value literal → Denotes value literal

theorem SpellsNumber.not_isStringFor (h : SpellsNumber digit? literal x)
    (none : digit? '\'' = none) :
    ¬IsStringFor value literal := by
  intro quoted
  obtain ⟨c, rest, rfl, digit⟩ := h.head
  have reads := quoted.reads
  unfold stringValue? at reads
  split at reads
  · simp_all
  · cases reads

theorem denotes_stringLiteral_iff : Denotes value (stringLiteral value) ↔ IsOneLine value := by
  rw [← isStringFor_stringLiteral_iff]
  constructor
  · intro h
    cases h with
    | number _ script _ =>
      obtain ⟨c, rest, same, digit⟩ := script.1.head
      obtain ⟨rfl, -⟩ := List.cons.inj same
      cases digit
    | string quoted => exact quoted
  · exact .string

/-- A numeral that is left as it is denotes its number if scripts write it that way. -/
theorem denotes_numeral_iff (h : isNumeral value = true) : Denotes value value ↔
    ∃ x, IsScriptNumber value x := by
  obtain ⟨x, spelled⟩ := isNumeral_eq_true_iff.mp h
  constructor
  · intro h
    cases h with
    | number _ script _ => exact ⟨_, script⟩
    | string quoted => exact absurd quoted (spelled.not_isStringFor (by decide))
  · rintro ⟨y, script⟩
    exact .number script.spells script (sameNumber_refl y)

/-- The default of an attribute denotes the value exactly if the value is a number as scripts write
it, or spells none and has one line. The default of a class is a string, and one for the class
exactly if that has one line. -/
theorem defaults_denote_iff (value : List Char) :
    (Denotes value (defaultLiteral value) ↔
      (∃ x, IsScriptNumber value x) ∨ (¬∃ x, SpellsNumber Text.digitValue? value x) ∧
      IsOneLine value) ∧
    ∀ root : Markup.Root, root.value? "className" = some value →
      stringValue? (classDefault root) = some value ∧
      (IsStringFor value (classDefault root) ↔ IsOneLine value) := by
  constructor
  · unfold defaultLiteral
    split
    · rename_i numeral
      rw [denotes_numeral_iff numeral]
      simp [isNumeral_eq_true_iff.mp numeral]
    · rename_i wordy
      rw [isNumeral_eq_true_iff] at wordy
      have unread : ¬∃ x, IsScriptNumber value x := fun ⟨x, script⟩ => wordy ⟨x, script.spells⟩
      simp [denotes_stringLiteral_iff, wordy, unread]
  · intro root named
    have written : classDefault root = stringLiteral value := by
      rw [classDefault, named, Option.getD_some]
    rw [written]
    exact ⟨stringValue?_stringLiteral value, isStringFor_stringLiteral_iff⟩

def quotedRoot : Markup.Root := ⟨[⟨"className".toList, "\"it's\"".toList⟩], []⟩

theorem defaults_denote_quoted : quotedRoot.value? "className" = some "it's".toList ∧
    stringValue? (classDefault quotedRoot) = some "it's".toList ∧
    IsStringFor "it's".toList (classDefault quotedRoot) := by
  have named : quotedRoot.value? "className" = some "it's".toList := by decide
  obtain ⟨reads, quoted⟩ := (defaults_denote_iff "it's".toList).2 quotedRoot named
  refine ⟨named, reads, quoted.mpr ?_⟩
  constructor
  · decide
  · decide

/-- A value of two lines is written with the end of its line, and digits are left with the zeros in
front of them and in their own script. -/
theorem not_denotes_default :
    ¬Denotes "a\nb".toList (defaultLiteral "a\nb".toList) ∧
    ¬Denotes "007".toList (defaultLiteral "007".toList) ∧
    ¬Denotes ['\u0663'] (defaultLiteral ['\u0663']) := by
  refine ⟨?_, ?_, ?_⟩
  · have written : defaultLiteral "a\nb".toList = stringLiteral "a\nb".toList := by decide
    rw [written, denotes_stringLiteral_iff]
    rintro ⟨line, -⟩
    exact line (by decide)
  · have kept : defaultLiteral "007".toList = "007".toList := by decide
    rw [kept, denotes_numeral_iff (by decide)]
    rintro ⟨x, -, zeros⟩
    exact zeros ⟨'0', ['7'], rfl, rfl⟩
  · have kept : defaultLiteral ['\u0663'] = ['\u0663'] := by decide
    rw [kept, denotes_numeral_iff (by decide)]
    rintro ⟨x, script, -⟩
    obtain ⟨c, rest, same, digit⟩ := script.head
    obtain ⟨rfl, -⟩ := List.cons.inj same
    exact absurd digit (by decide)

end Handoff.Component
