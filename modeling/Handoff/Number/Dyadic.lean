/-! # Doubles as exact numbers

A finite double is a signed natural number times a power of two. Everything that prints or rounds a
double starts from this reading of its bits, so the rules below are statements about naturals.
-/

namespace Handoff

/-- The number `mantissa · 2 ^ exponent`, with a sign that zero keeps too. -/
structure Dyadic where
  negative : Bool
  mantissa : Nat
  exponent : Int
deriving Repr, DecidableEq

namespace Dyadic

def numerator (x : Dyadic) : Nat := x.mantissa * Nat.pow 2 x.exponent.toNat

def denominator (x : Dyadic) : Nat := Nat.pow 2 (-x.exponent).toNat

def isWhole (x : Dyadic) : Bool := x.numerator % x.denominator == 0

theorem denominator_pos (x : Dyadic) : 0 < x.denominator := Nat.two_pow_pos _

end Dyadic

inductive Binary64 where
  | finite (value : Dyadic)
  | infinite (negative : Bool)
  | undefined
deriving Repr, DecidableEq

def Binary64.ofFields (negative : Bool) (field fraction : Nat) : Binary64 :=
  if field == 2047 then if fraction == 0 then .infinite negative else .undefined
  else if field == 0 then .finite ⟨negative, fraction, -1074⟩
  else .finite ⟨negative, fraction + Nat.pow 2 52, (field : Int) - 1075⟩

def Binary64.ofFloat (x : Float) : Binary64 :=
  let bits := x.toBits.toNat
  .ofFields (bits / Nat.pow 2 63 == 1) (bits / Nat.pow 2 52 % Nat.pow 2 11) (bits % Nat.pow 2 52)

end Handoff
