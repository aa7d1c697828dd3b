import Handoff.Json.Display
import Handoff.Number.Reading
import Handoff.Number.Text

/-! # Messages with arguments

A message may hold marks, a percent sign and a letter each, which its arguments are put in place of
in their order. A message without arguments is kept as it is.
-/

namespace Handoff.Log

/-- A number as a whole number, cut off towards zero. -/
def wholeText : Json → String
  | .int n => intText n
  | .bool value => if value then "1" else "0"
  | .float x =>
    match Binary64.ofFloat x with
    | .finite value => signed (value.negative && value.denominator ≤ value.numerator)
        (toString (value.numerator / value.denominator))
    | _ => (Json.float x).display
  | value => value.display

def doubleOf : Json → Float
  | .int n => (floatOfInt? n).getD 0
  | .bool value => if value then 1 else 0
  | .float x => x
  | _ => 0

def argumentText (letter : Char) (places : Option Nat) (value : Json) : Option String :=
  if letter == 's' then some value.display
  else if letter == 'r' then some value.literal
  else if letter == 'd' || letter == 'i' then some (wholeText value)
  else if letter == 'f' then some (placesText (places.getD 6) (doubleOf value))
  else none

/-- The number of places asked for behind a percent sign, and what follows it. -/
def placesAsked : List Char → Option Nat × List Char
  | '.' :: rest => (some (takeDigits 0 0 rest).1, (takeDigits 0 0 rest).2.2)
  | text => (none, text)

/-- The text with the arguments in the places of the marks. Marks without an argument are kept. -/
def fillFrom (fuel : Nat) (values : List Json) (text : List Char) : List Char :=
  match fuel, text with
  | 0, text => text
  | _, [] => []
  | fuel + 1, '%' :: '%' :: rest => '%' :: fillFrom fuel values rest
  | fuel + 1, '%' :: rest =>
    match placesAsked rest, values with
    | (places, letter :: left), value :: others =>
      match argumentText letter places value with
      | some shown => shown.toList ++ fillFrom fuel others left
      | none => '%' :: fillFrom fuel values rest
    | _, _ => '%' :: fillFrom fuel values rest
  | fuel + 1, c :: rest => c :: fillFrom fuel values rest

def fill (message : String) (values : List Json) : String :=
  if values.isEmpty then message
  else String.ofList (fillFrom message.length values message.toList)

end Handoff.Log
