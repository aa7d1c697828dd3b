import Handoff.Number.Dyadic

/-! # Rounding to the nearest

A quotient is rounded to the nearest whole number, and a half goes to the even neighbour. The same
rule makes a double out of a fraction.
-/

namespace Handoff

/-- The whole number nearest to `num / den`; a half goes to the even neighbour. -/
def roundHalfEven (num den : Nat) : Nat :=
  let low := num / den
  let twice := 2 * (num % den)
  if twice < den || (twice == den && low % 2 == 0) then low else low + 1

theorem roundHalfEven_near (num : Nat) {den : Nat} (pos : 0 < den) :
    2 * (roundHalfEven num den * den) ≤ 2 * num + den ∧
      2 * num ≤ 2 * (roundHalfEven num den * den) + den := by
  have split := Nat.div_add_mod num den
  have small := Nat.mod_lt num pos
  have swap : num / den * den = den * (num / den) := Nat.mul_comm _ _
  unfold roundHalfEven
  simp only
  split
  · rename_i low
    have : 2 * (num % den) ≤ den := by
      simp only [Bool.or_eq_true, decide_eq_true_eq, Bool.and_eq_true, beq_iff_eq] at low
      omega
    omega
  · rename_i high
    have : den ≤ 2 * (num % den) := by
      simp only [Bool.or_eq_true, decide_eq_true_eq, Bool.and_eq_true, beq_iff_eq] at high
      omega
    have step : (num / den + 1) * den = num / den * den + den := Nat.succ_mul _ _
    omega

def leadingExponent (num den : Nat) : Int :=
  let guess : Int := (num.log2 : Int) - den.log2
  if den * Nat.pow 2 guess.toNat ≤ num * Nat.pow 2 (-guess).toNat then guess else guess - 1

/-- The bits of the double nearest to the positive fraction `num / den`; a fraction too large for
a double gives the bits of infinity. -/
def nearestBits (num den : Nat) : Nat :=
  let unit : Int := max (leadingExponent num den - 52) (-1074)
  let mantissa := roundHalfEven (num * Nat.pow 2 (-unit).toNat) (den * Nat.pow 2 unit.toNat)
  min ((unit + 1074).toNat * Nat.pow 2 52 + mantissa) 0x7FF0000000000000

/-- The double nearest to a signed fraction. -/
def floatOfRatio (negative : Bool) (num den : Nat) : Float :=
  let magnitude := if num == 0 then 0 else nearestBits num den
  Float.ofBits (UInt64.ofNat (magnitude + if negative then Nat.pow 2 63 else 0))

/-- The double nearest to a whole number, if it is not too large for one. -/
def floatOfInt? (n : Int) : Option Float :=
  let x := floatOfRatio (n < 0) n.natAbs 1
  if x.isInf then none else some x

/-- The whole number nearest to a double; a half goes to the even neighbour. -/
def Dyadic.round (x : Dyadic) : Int :=
  let magnitude : Int := roundHalfEven x.numerator x.denominator
  if x.negative then -magnitude else magnitude

/-- The whole number that a double is nearest to; anything that is no finite number gives zero. -/
def nearestInt (x : Float) : Int :=
  match Binary64.ofFloat x with
  | .finite value => value.round
  | _ => 0

/-- The whole number nearest to a double; a half goes up. The half is added as doubles are added. -/
def roundHalfUp (x : Float) : Int := nearestInt (x + 0.5).floor

end Handoff
