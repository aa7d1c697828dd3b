import Handoff.Number.Reading

/-! # Whole numbers

A whole number is read from digits of every script, with single low lines allowed between them. A
number with too many digits is refused.
-/

namespace Handoff

/-- How many digits a number may have. -/
def digitLimit : Nat := 4300

structure NumberTooLong where
  digits : Nat
deriving Repr, DecidableEq

def NumberTooLong.message (fault : NumberTooLong) : String :=
  s!"Exceeds the limit ({digitLimit} digits) for integer string conversion: value has " ++
    s!"{fault.digits} digits; use sys.set_int_max_str_digits() to increase the limit"

/-- A number, unless it was spelled with too many digits. -/
def limitDigits {α : Type} (count : Nat) (value : α) : Except NumberTooLong α :=
  if count ≤ digitLimit then .ok value else .error ⟨count⟩

def wholeOfDigits (digits : List Char) : Except NumberTooLong Int :=
  limitDigits digits.length (Text.decimalValue digits)

/-- The whole number that a text spells, white space around it set aside. -/
def int? (text : List Char) : Option Int := do
  let body ← withoutLowLines false ((Text.trimBlanks text).map plainDigit)
  let (negative, body) := match body with
    | '-' :: rest => (true, rest)
    | '+' :: rest => (false, rest)
    | rest => (false, rest)
  match takeDigits 0 0 body with
  | (_, 0, _) | (_, _, _ :: _) => none
  | (value, count, []) =>
    (limitDigits count (if negative then -(value : Int) else value)).toOption

theorem limitDigits_eq_ok_iff {α : Type} {count : Nat} {value : α} :
    limitDigits count value = .ok value ↔ count ≤ digitLimit := by
  unfold limitDigits
  split <;> simp [*]

end Handoff
