import Handoff.Number.Rounding

/-! # Numbers as text

Coordinates have at most two places and no needless zero. A double on its own is written with the
fewest digits that read back as the same double.
-/

namespace Handoff

def signed (negative : Bool) (text : String) : String := if negative then "-" ++ text else text

def intText (n : Int) : String := signed (n < 0) (toString n.natAbs)

def twoDigits (n : Nat) : String := if n < 10 then "0" ++ toString n else toString n

def hundredthsText (n : Nat) : String := toString (n / 100) ++ "." ++ twoDigits (n % 100)

/-- A count of hundredths without the zeros that end the fraction. -/
def shortHundredthsText (n : Nat) : String :=
  if n % 100 == 0 then toString (n / 100)
  else if n % 10 == 0 then toString (n / 100) ++ "." ++ toString (n % 100 / 10)
  else hundredthsText n

/-- The hundredths nearest to the magnitude of a number; a half goes to the even neighbour. -/
def Dyadic.hundredths (x : Dyadic) : Nat := roundHalfEven (100 * x.numerator) x.denominator

/-- A coordinate: whole numbers in full, other numbers with at most two places. -/
def Dyadic.coordinate (x : Dyadic) : String :=
  if x.isWhole then
    let magnitude := x.numerator / x.denominator
    signed (x.negative && magnitude != 0) (toString magnitude)
  else signed x.negative (shortHundredthsText x.hundredths)

/-- The words for a double that is no number. -/
def unboundedText (negative : Bool) : String := signed negative "inf"

def coordinateText (x : Float) : String :=
  match Binary64.ofFloat x with
  | .finite value => value.coordinate
  | .infinite negative => unboundedText negative
  | .undefined => "nan"

def twoPlacesText (x : Float) : String :=
  match Binary64.ofFloat x with
  | .finite value => signed value.negative (hundredthsText value.hundredths)
  | .infinite negative => unboundedText negative
  | .undefined => "nan"

/-- The digits of a number with zeros in front up to a width. -/
def paddedDigits (width n : Nat) : String :=
  let digits := toString n
  String.ofList (List.replicate (width - digits.length) '0') ++ digits

/-- A count of units of the last of some places, with a point in front of the places. -/
def scaledText (places n : Nat) : String :=
  if places == 0 then toString n
  else toString (n / Nat.pow 10 places) ++ "." ++ paddedDigits places (n % Nat.pow 10 places)

/-- A number with exactly so many places; a half of the last unit goes to the even neighbour. -/
def placesText (places : Nat) (x : Float) : String :=
  match Binary64.ofFloat x with
  | .finite value =>
    signed value.negative
      (scaledText places (roundHalfEven (Nat.pow 10 places * value.numerator) value.denominator))
  | .infinite negative => unboundedText negative
  | .undefined => "nan"

/-! ## The fewest digits -/

/-- The number `digits · 10 ^ exponent`. -/
structure Decimal where
  digits : Nat
  exponent : Int
deriving Repr, DecidableEq

/-- The same number without zeros at the end of its digits, if the fuel allows. -/
def Decimal.trimmed : Nat → Decimal → Decimal
  | 0, x => x
  | fuel + 1, x =>
    if x.digits != 0 && x.digits % 10 == 0 then
      trimmed fuel ⟨x.digits / 10, x.exponent + 1⟩
    else x

def decimalLength (n : Nat) : Nat := (Nat.toDigits 10 n).length

/-- The exponent of the leading decimal digit of a positive fraction above `10 ^ -400`. -/
def leadingDecimalExponent (num den : Nat) : Int :=
  (decimalLength (num * Nat.pow 10 400 / den) : Int) - 401

/-- Whether `digits · 10 ^ place` lies between two fractions of one denominator, the ends counted
when `closed`. -/
def between (digits : Nat) (place : Int) (low high den : Nat) (closed : Bool) : Bool :=
  let value := digits * Nat.pow 10 place.toNat * den
  let scale := Nat.pow 10 (-place).toNat
  if closed then low * scale ≤ value && value ≤ high * scale
  else low * scale < value && value < high * scale

/-- The point of the decimal grid `10 ^ place` that lies between the bounds and is nearest to the
value, if one of the value's two neighbours on that grid does. -/
def nearestOnGrid (num low high den : Nat) (closed : Bool) (place : Int) : Option Decimal :=
  let unit := den * Nat.pow 10 place.toNat
  let scaled := num * Nat.pow 10 (-place).toNat
  let below := scaled / unit
  let hitBelow := between below place low high den closed
  let hitAbove := between (below + 1) place low high den closed
  if hitBelow && hitAbove then some ⟨roundHalfEven scaled unit, place⟩
  else if hitBelow then some ⟨below, place⟩
  else if hitAbove then some ⟨below + 1, place⟩
  else none

/-- The decimal with the fewest digits that reads back as the given positive double. -/
def Dyadic.shortest (x : Dyadic) : Decimal :=
  let quarter : Dyadic := ⟨false, 4 * x.mantissa, x.exponent - 2⟩
  let unit := Nat.pow 2 quarter.exponent.toNat
  let den := quarter.denominator
  let narrow := x.mantissa == Nat.pow 2 52 && x.exponent > -1074
  let low := (quarter.mantissa - if narrow then 1 else 2) * unit
  let high := (quarter.mantissa + 2) * unit
  let lead := leadingDecimalExponent quarter.numerator den
  let grids := (List.range 17).filterMap fun (n : Nat) =>
    nearestOnGrid quarter.numerator low high den (x.mantissa % 2 == 0) (lead - n)
  (grids.headD ⟨x.mantissa, x.exponent⟩).trimmed 20

/-- How a decimal is laid out: the exponents of the leading digit that are written positionally. -/
structure DecimalLayout where
  least : Int
  bound : Int

/-- Positional from one ten-thousandth up to, but not including, ten to the sixteenth. -/
def plainLayout : DecimalLayout := ⟨-4, 16⟩

/-- A decimal in the given layout, always with a point or an exponent. -/
def Decimal.text (layout : DecimalLayout) (x : Decimal) : String :=
  let digits := toString x.digits
  let lead : Int := x.exponent + digits.length - 1
  if layout.least ≤ lead && lead < layout.bound then
    if 0 ≤ x.exponent then digits ++ String.ofList (List.replicate x.exponent.toNat '0') ++ ".0"
    else if 0 ≤ lead then
      let whole := (lead + 1).toNat
      (digits.take whole).toString ++ "." ++ (digits.drop whole).toString
    else "0." ++ String.ofList (List.replicate (-lead - 1).toNat '0') ++ digits
  else
    let tail := (digits.drop 1).toString
    let mantissa := if tail.isEmpty then digits else (digits.take 1).toString ++ "." ++ tail
    mantissa ++ "e" ++ (if lead < 0 then "-" else "+") ++ twoDigits lead.natAbs

/-- A double with the fewest digits that read back as the same double. -/
def floatText (x : Float) : String :=
  match Binary64.ofFloat x with
  | .finite value =>
    signed value.negative <|
      if value.mantissa == 0 then "0.0" else value.shortest.text plainLayout
  | .infinite negative => unboundedText negative
  | .undefined => "nan"

def hexPair (n : Nat) : String :=
  String.ofList [Nat.digitChar (n / 16 % 16), Nat.digitChar (n % 16)]

end Handoff
