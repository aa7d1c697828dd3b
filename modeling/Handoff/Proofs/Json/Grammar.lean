import Handoff.Json.Reader
import Handoff.Proofs.Text.Scan

/-! # The grammar of JSON

A document is one value with white space around it. Numbers that are not finite stand there as the
words that are read for them. No document ends in anything but a closing mark, a digit or a letter,
so nothing can be told behind a document without spoiling it.
-/

namespace Handoff.Json

/-! ## Parts of values -/

def IsGap (text : List Char) : Prop := ∀ c ∈ text, c ∈ [' ', '\t', '\n', '\r']

def IsDigits (text : List Char) : Prop := text ≠ [] ∧ ∀ c ∈ text, c.isDigit = true

/-- The whole part of a number, in which no zero leads other digits. -/
def IsWhole (text : List Char) : Prop := text = ['0'] ∨ IsDigits text ∧ text.head? ≠ some '0'

def IsFraction (text : List Char) : Prop :=
  text = [] ∨ ∃ digits, IsDigits digits ∧ text = '.' :: digits

def IsExponent (text : List Char) : Prop :=
  text = [] ∨ ∃ mark ∈ ['e', 'E'], ∃ sign ∈ [[], ['+'], ['-']], ∃ digits, IsDigits digits ∧
    text = mark :: (sign ++ digits)

def IsMagnitude (text : List Char) : Prop :=
  ∃ whole fraction exponent, IsWhole whole ∧ IsFraction fraction ∧ IsExponent exponent ∧
    text = whole ++ fraction ++ exponent

def IsNumber (text : List Char) : Prop :=
  ∃ sign ∈ [[], ['-']], ∃ magnitude, IsMagnitude magnitude ∧ text = sign ++ magnitude

/-- One character of a text, as it is written between the quotes. -/
inductive IsPiece : List Char → Prop
  | plain (c : Char) (visible : 0x20 ≤ c.toNat) (quote : c ≠ '"') (slash : c ≠ '\\') : IsPiece [c]
  | short (letter : Char) (known : (shortEscape? letter).isSome = true) : IsPiece ['\\', letter]
  | unit (digits : List Char) (four : digits.length = 4)
      (hex : ∀ d ∈ digits, (hexValue? d).isSome = true) : IsPiece ('\\' :: 'u' :: digits)

def IsText (text : List Char) : Prop :=
  ∃ pieces : List (List Char), (∀ piece ∈ pieces, IsPiece piece) ∧
  text = '"' :: pieces.flatten ++ ['"']

/-! ## Values -/

mutual

inductive IsValue : List Char → Prop
  | word {text : List Char} (known : text ∈ wordValues.map Prod.fst) : IsValue text
  | number {text : List Char} (h : IsNumber text) : IsValue text
  | text {text : List Char} (h : IsText text) : IsValue text
  | emptyList {gap : List Char} (h : IsGap gap) : IsValue ('[' :: gap ++ [']'])
  | list {items : List Char} (h : IsItems items) : IsValue ('[' :: items ++ [']'])
  | emptyObject {gap : List Char} (h : IsGap gap) : IsValue ('\x7b' :: gap ++ ['\x7d'])
  | object {fields : List Char} (h : IsFields fields) : IsValue ('\x7b' :: fields ++ ['\x7d'])

/-- Values with commas between them, each with white space around it. -/
inductive IsItems : List Char → Prop
  | last {before value after : List Char} (hb : IsGap before) (hv : IsValue value)
    (ha : IsGap after) :
    IsItems (before ++ value ++ after)
  | more {before value after items : List Char} (hb : IsGap before) (hv : IsValue value)
    (ha : IsGap after) (hi : IsItems items) : IsItems (before ++ value ++ after ++ ',' :: items)

/-- Fields with commas between them, each a text, a colon and a value with white space around
them. -/
inductive IsFields : List Char → Prop
  | last {before key behind ahead value after : List Char} (hb : IsGap before) (hk : IsText key)
    (hc : IsGap behind) (hd : IsGap ahead) (hv : IsValue value) (ha : IsGap after) :
    IsFields (before ++ key ++ behind ++ ':' :: (ahead ++ value ++ after))
  | more {before key behind ahead value after fields : List Char} (hb : IsGap before)
    (hk : IsText key) (hc : IsGap behind) (hd : IsGap ahead) (hv : IsValue value) (ha : IsGap after)
    (hf : IsFields fields) :
    IsFields (before ++ key ++ behind ++ ':' :: (ahead ++ value ++ after ++ ',' :: fields))

end

def IsDocument (text : String) : Prop :=
  ∃ before value after, IsGap before ∧ IsValue value ∧ IsGap after ∧
    text.toList = before ++ value ++ after

/-! ## The end of a document -/

variable {text : List Char} {c : Char}

theorem IsDigits.last (h : IsDigits text) : ∃ front c, text = front ++ [c] ∧ c.isDigit = true := by
  obtain ⟨ne, digits⟩ := h
  rcases List.eq_nil_or_concat text with rfl | ⟨front, c, rfl⟩
  · exact absurd rfl ne
  · exact ⟨front, c, List.concat_eq_append, digits c (by simp)⟩

theorem IsWhole.digits (h : IsWhole text) : IsDigits text := by
  rcases h with rfl | ⟨digits, -⟩
  · exact ⟨by simp, by decide⟩
  · exact digits

theorem IsNumber.last (h : IsNumber text) : ∃ front c, text = front ++ [c] ∧ c.isDigit = true := by
  obtain ⟨sign, -, -, ⟨whole, fraction, exponent, hw, hf, he, rfl⟩, rfl⟩ := h
  rcases he with rfl | ⟨mark, -, plus, -, digits, hd, rfl⟩
  · rcases hf with rfl | ⟨digits, hd, rfl⟩
    · obtain ⟨front, c, rfl, hc⟩ := hw.digits.last
      exact ⟨sign ++ front, c, by simp, hc⟩
    · obtain ⟨front, c, rfl, hc⟩ := hd.last
      exact ⟨sign ++ whole ++ '.' :: front, c, by simp, hc⟩
  · obtain ⟨front, c, rfl, hc⟩ := hd.last
    exact ⟨sign ++ whole ++ fraction ++ mark :: (plus ++ front), c, by simp, hc⟩

def endsValue (c : Char) : Bool := ['"', ']', '\x7d'].contains c || c.isAlphanum

theorem IsValue.last (h : IsValue text) : ∃ front c, text = front ++ [c] ∧ endsValue c = true := by
  cases h with
  | word known =>
    have words : ∀ word ∈ wordValues.map Prod.fst, word ≠ [] ∧ ∀ c ∈ word.getLast?,
        endsValue c = true := by
      decide
    obtain ⟨ne, ends⟩ := words text known
    rcases List.eq_nil_or_concat text with rfl | ⟨front, c, rfl⟩
    · exact absurd rfl ne
    · exact ⟨front, c, List.concat_eq_append, ends c (by simp)⟩
  | number h =>
    obtain ⟨front, c, rfl, digit⟩ := h.last
    exact ⟨front, c, rfl, by simp [endsValue, Char.isAlphanum, digit]⟩
  | text h =>
    obtain ⟨pieces, -, rfl⟩ := h
    exact ⟨'"' :: pieces.flatten, '"', rfl, by decide⟩
  | emptyList _ => exact ⟨_, ']', rfl, by decide⟩
  | list _ => exact ⟨_, ']', rfl, by decide⟩
  | emptyObject _ => exact ⟨_, '\x7d', rfl, by decide⟩
  | object _ => exact ⟨_, '\x7d', rfl, by decide⟩

/-- Behind the last character of a value, a document has only white space. -/
theorem not_isDocument_of_last {document : String} (last : document.toList.getLast? = some c)
    (solid : c ∉ [' ', '\t', '\n', '\r']) (open_ : endsValue c = false) :
    ¬ IsDocument document := by
  rintro ⟨before, value, after, -, hv, ha, whole⟩
  rw [whole] at last
  rcases List.eq_nil_or_concat after with rfl | ⟨gap, d, rfl⟩
  · obtain ⟨front, d, rfl, ends⟩ := hv.last
    obtain rfl : d = c := by simpa using last
    exact ne_true_of_eq_false open_ ends
  · obtain rfl : d = c := by simpa using last
    exact solid (ha d (by simp))

end Handoff.Json
