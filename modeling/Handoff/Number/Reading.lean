import Handoff.Number.Rounding
import Handoff.Text.Blank
import Handoff.Text.Digit

/-! # Reading numbers

A decimal numeral is a whole part, a fraction and an exponent, with single low lines allowed between
digits. Digits of every script count, and so do the words for infinity and for no number.
-/

namespace Handoff

/-- The double nearest to `digits · 10 ^ exponent`. Beyond the range of doubles it is infinity or
zero, whatever the digits. -/
def floatOfDecimal (negative : Bool) (digits : Nat) (exponent : Int) : Float :=
  let size : Int := (Nat.toDigits 10 digits).length + exponent
  if digits == 0 || size < -330 then floatOfRatio negative 0 1
  else if 310 < size then floatOfRatio negative (Nat.pow 2 1024) 1
  else floatOfRatio negative (digits * Nat.pow 10 exponent.toNat) (Nat.pow 10 (-exponent).toNat)

def asciiDigit? (c : Char) : Option Nat := if c.isDigit then some (c.toNat - '0'.toNat) else none

/-- The digits at the front of a text, read onto a value: the value, how many there were, and what
is left. -/
def takeDigits (value count : Nat) : List Char → Nat × Nat × List Char
  | [] => (value, count, [])
  | c :: rest =>
    match asciiDigit? c with
    | some digit => takeDigits (10 * value + digit) (count + 1) rest
    | none => (value, count, c :: rest)

/-- The value of an optional exponent part; `none` when it is broken off. -/
def exponentPart : List Char → Option (Int × List Char)
  | c :: rest =>
    if c == 'e' || c == 'E' then
      let (negative, body) := match rest with
        | '-' :: body => (true, body)
        | '+' :: body => (false, body)
        | body => (false, body)
      match takeDigits 0 0 body with
      | (_, 0, _) => none
      | (value, _, left) => some (if negative then -(value : Int) else value, left)
    else some (0, c :: rest)
  | [] => some (0, [])

def unsignedNumeral? (negative : Bool) (text : List Char) : Option Float :=
  let (whole, wholeCount, afterWhole) := takeDigits 0 0 text
  let (digits, fractionCount, afterFraction) := match afterWhole with
    | '.' :: rest => takeDigits whole 0 rest
    | rest => (whole, 0, rest)
  if wholeCount + fractionCount == 0 then none
  else match exponentPart afterFraction with
    | some (exponent, []) => some (floatOfDecimal negative digits (exponent - fractionCount))
    | _ => none

/-- Takes out the low lines, each of which has to stand between two digits. -/
def withoutLowLines (afterDigit : Bool) : List Char → Option (List Char)
  | [] => some []
  | '_' :: rest =>
    if afterDigit && (rest.head?.map Char.isDigit).getD false then withoutLowLines false rest
    else none
  | c :: rest => (withoutLowLines c.isDigit rest).map (c :: ·)

/-- A digit of any script as its ASCII form; other characters beyond ASCII spoil a numeral. -/
def plainDigit (c : Char) : Char :=
  if c.toNat < 128 then c
  else match Text.digitValue? c with
    | some digit => Nat.digitChar digit
    | none => '?'

/-- The words for infinity and for no number, in lower case. -/
def unboundedWord? (negative : Bool) (text : List Char) : Option Float :=
  let word := String.ofList (text.map Char.toLower)
  if word == "inf" || word == "infinity" then some (floatOfRatio negative (Nat.pow 2 1024) 1)
  else if word == "nan" then some (0 / 0)
  else none

/-- The double that a text spells, white space around it set aside. -/
def float? (text : List Char) : Option Float := do
  let body ← withoutLowLines false ((Text.trimBlanks text).map plainDigit)
  let (negative, body) := match body with
    | '-' :: rest => (true, rest)
    | '+' :: rest => (false, rest)
    | rest => (false, rest)
  (unsignedNumeral? negative body).orElse fun _ => unboundedWord? negative body

end Handoff
