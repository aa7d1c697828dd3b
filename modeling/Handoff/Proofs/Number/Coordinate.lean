import Handoff.Proofs.Json.Number
import Mathlib.Algebra.Order.Field.Rat
import Mathlib.Data.Rat.Cast.Order
import Mathlib.Tactic.FieldSimp
import Mathlib.Tactic.Linarith
import Mathlib.Tactic.Positivity
import Mathlib.Tactic.Ring

/-! # Coordinates

A coordinate is a decimal numeral with at most two places, no needless zero and no needless point. A
whole number is written in full. Any other number is written by the nearest hundredth, so the
numeral is never farther from it than half a hundredth.
-/

namespace Handoff

variable {x : Dyadic} {n : ℕ}

/-! ## Numerals -/

def signOf (negative : Bool) : ℚ := if negative then -1 else 1

/-- A decimal numeral: a sign or none, a whole part, and up to two places without a zero at their
end. -/
structure Numeral where
  negative : Bool
  whole : List Char
  fraction : List Char
  isWhole : Json.IsWhole whole
  places : fraction.length ≤ 2
  isDigit : ∀ c ∈ fraction, c.isDigit = true
  last : fraction.getLast? ≠ some '0'

namespace Numeral

def text (numeral : Numeral) : List Char :=
  (if numeral.negative then ['-'] else []) ++ numeral.whole ++
    if numeral.fraction.isEmpty then [] else '.' :: numeral.fraction

def value (numeral : Numeral) : ℚ :=
  signOf numeral.negative * (Nat.ofDigitChars 10 numeral.whole 0 +
    Nat.ofDigitChars 10 numeral.fraction 0 / 10 ^ numeral.fraction.length)

end Numeral

def placesOf (n : ℕ) : List Char :=
  if n = 0 then []
  else if n % 10 = 0 then [Nat.digitChar (n / 10)]
  else [Nat.digitChar (n / 10), Nat.digitChar (n % 10)]

def Numeral.ofHundredths (negative : Bool) (n : ℕ) : Numeral where
  negative := negative
  whole := Nat.toDigits 10 (n / 100)
  fraction := placesOf (n % 100)
  isWhole := Json.isWhole_toDigits _
  places := by
    have all : ∀ k < 100, (placesOf k).length ≤ 2 := by decide
    exact all _ (Nat.mod_lt n (by decide))
  isDigit := by
    have all : ∀ k < 100, ∀ c ∈ placesOf k, c.isDigit = true := by decide
    exact all _ (Nat.mod_lt n (by decide))
  last := by
    have all : ∀ k < 100, (placesOf k).getLast? ≠ some '0' := by decide
    exact all _ (Nat.mod_lt n (by decide))

theorem Numeral.value_ofHundredths (negative : Bool) (n : ℕ) :
    (Numeral.ofHundredths negative n).value = signOf negative * (n / 100) := by
  have whole : Nat.ofDigitChars 10 (Nat.toDigits 10 (n / 100)) 0 = n / 100 :=
    Nat.ofDigitChars_ten_toDigits
  have all : ∀ k < 100, Nat.ofDigitChars 10 (placesOf k) 0 * 100 =
      k * 10 ^ (placesOf k).length := by
    decide
  have places := all (n % 100) (Nat.mod_lt n (by decide))
  have split : (n : ℚ) = 100 * (n / 100 : ℕ) + (n % 100 : ℕ) := by
    exact_mod_cast (Nat.div_add_mod n 100).symm
  have scaled :
      (Nat.ofDigitChars 10 (placesOf (n % 100)) 0 : ℚ) / 10 ^ (placesOf (n % 100)).length =
      (n % 100 : ℕ) / 100 := by
    rw [div_eq_div_iff (by positivity) (by norm_num)]
    exact_mod_cast places
  change signOf negative * ((Nat.ofDigitChars 10 (Nat.toDigits 10 (n / 100)) 0 : ℕ) +
    (Nat.ofDigitChars 10 (placesOf (n % 100)) 0 : ℚ) / 10 ^ (placesOf (n % 100)).length) = _
  rw [whole, scaled, split]
  ring

theorem toList_twoDigits (small : n < 100) :
    (twoDigits n).toList = [Nat.digitChar (n / 10), Nat.digitChar (n % 10)] := by
  unfold twoDigits
  split
  · rename_i one
    rw [String.toList_append, toList_toString, Nat.toDigits_of_lt_base one, Nat.div_eq_of_lt one,
      Nat.mod_eq_of_lt one]
    rfl
  · rename_i two
    have base : n / 10 < 10 := by omega
    rw [toList_toString, Nat.toDigits_of_base_le (by decide) (Nat.not_lt.mp two),
      Nat.toDigits_of_lt_base base]
    rfl

theorem Numeral.text_ofHundredths (negative : Bool) (n : ℕ) :
    (Numeral.ofHundredths negative n).text = (signed negative (shortHundredthsText n)).toList := by
  have places : (shortHundredthsText n).toList =
      Nat.toDigits 10 (n / 100) ++
        if (placesOf (n % 100)).isEmpty then [] else '.' :: placesOf (n % 100) := by
    unfold shortHundredthsText
    split
    · rename_i whole
      simp [placesOf, eq_of_beq whole]
    · split
      · rename_i rest tenths
        rw [beq_iff_eq] at rest tenths
        have digit : n % 100 / 10 < 10 := by omega
        simp [placesOf, rest, tenths, Nat.toDigits_of_lt_base digit]
      · rename_i rest hundredths
        rw [beq_iff_eq] at rest hundredths
        have small : n % 100 < 100 := Nat.mod_lt n (by decide)
        simp [hundredthsText, placesOf, rest, hundredths, toList_twoDigits small]
  cases negative <;> simp [Numeral.text, Numeral.ofHundredths, signed, places]

/-! ## The value of a double -/

def Dyadic.value (x : Dyadic) : ℚ := signOf x.negative * (x.mantissa * 2 ^ x.exponent)

theorem Dyadic.value_eq (x : Dyadic) :
    x.value = signOf x.negative * (x.numerator / x.denominator) := by
  have power : (2 : ℚ) ^ x.exponent = 2 ^ x.exponent.toNat / 2 ^ (-x.exponent).toNat := by
    rcases Int.le_total 0 x.exponent with high | low
    · obtain ⟨k, hk⟩ := Int.eq_ofNat_of_zero_le high
      simp [hk]
    · obtain ⟨k, hk⟩ := Int.eq_ofNat_of_zero_le (Int.neg_nonneg_of_nonpos low)
      obtain hn : x.exponent = -(k : ℤ) := by omega
      simp [hn]
  rw [Dyadic.value, power, Dyadic.numerator, Dyadic.denominator]
  push_cast [Nat.pow_eq]
  ring

theorem Dyadic.isWhole_iff : x.isWhole = true ↔ x.denominator ∣ x.numerator := by
  rw [Dyadic.isWhole, beq_iff_eq, Nat.dvd_iff_mod_eq_zero]

theorem abs_signOf_mul (negative : Bool) (q : ℚ) : |signOf negative * q| = |q| := by
  cases negative <;> simp [signOf]

theorem Dyadic.isWhole_of_value {k : ℤ} (h : x.value = k) : x.isWhole = true := by
  have pos : (0 : ℚ) < x.denominator := by exact_mod_cast x.denominator_pos
  have magnitude : ((x.numerator : ℤ) : ℚ) / (x.denominator : ℤ) = |(k : ℚ)| := by
    rw [← h, Dyadic.value_eq, abs_signOf_mul, abs_of_nonneg (by positivity)]
    push_cast
    rfl
  rw [Dyadic.isWhole_iff, ← Int.natCast_dvd_natCast]
  refine ⟨|k|, ?_⟩
  rw [div_eq_iff (by exact_mod_cast pos.ne')] at magnitude
  rw [mul_comm]
  exact_mod_cast magnitude

/-! ## The numeral of a double -/

def Dyadic.numeral (x : Dyadic) : Numeral :=
  if x.isWhole then
    .ofHundredths (x.negative && x.numerator / x.denominator != 0)
      (100 * (x.numerator / x.denominator))
  else .ofHundredths x.negative x.hundredths

theorem Dyadic.text_numeral (x : Dyadic) : x.numeral.text = x.coordinate.toList := by
  unfold Dyadic.numeral Dyadic.coordinate
  split
  · rw [Numeral.text_ofHundredths]
    simp [shortHundredthsText]
  · exact Numeral.text_ofHundredths _ _

theorem Dyadic.value_numeral_of_isWhole (whole : x.isWhole = true) : x.numeral.value = x.value := by
  obtain ⟨k, hk⟩ := Dyadic.isWhole_iff.mp whole
  have pos : (x.denominator : ℚ) ≠ 0 := by exact_mod_cast x.denominator_pos.ne'
  have quotient : x.numerator / x.denominator = k := by
    rw [hk, Nat.mul_div_cancel_left k x.denominator_pos]
  rw [Dyadic.numeral, if_pos whole, Numeral.value_ofHundredths, Dyadic.value_eq, quotient, hk]
  push_cast
  rw [mul_div_cancel_left₀ _ pos, mul_div_cancel_left₀ _ (by norm_num)]
  rcases Nat.eq_zero_or_pos k with rfl | positive
  · simp
  · have signed : (k != 0) = true := bne_iff_ne.mpr positive.ne'
    rw [signed, Bool.and_true]

theorem abs_hundredths_sub (x : Dyadic) :
    |(x.hundredths : ℚ) / 100 - x.numerator / x.denominator| ≤ 1 / 200 := by
  obtain ⟨above, below⟩ := roundHalfEven_near (100 * x.numerator) x.denominator_pos
  rw [← Dyadic.hundredths] at above below
  have pos : (0 : ℚ) < x.denominator := by exact_mod_cast x.denominator_pos
  have above :
      (2 * (x.hundredths * x.denominator) : ℚ) ≤ 2 * (100 * x.numerator) + x.denominator := by
    exact_mod_cast above
  have below :
      (2 * (100 * x.numerator) : ℚ) ≤ 2 * (x.hundredths * x.denominator) + x.denominator := by
    exact_mod_cast below
  have common : (x.hundredths : ℚ) / 100 - x.numerator / x.denominator =
      (x.hundredths * x.denominator - 100 * x.numerator) / (100 * x.denominator) := by
    field_simp
  rw [common, abs_div, abs_of_pos (by positivity : (0 : ℚ) < 100 * x.denominator),
    div_le_iff₀ (by positivity), abs_le]
  constructor <;> linarith

theorem Dyadic.abs_value_numeral_sub (x : Dyadic) : |x.numeral.value - x.value| ≤ 1 / 200 := by
  cases whole : x.isWhole with
  | true =>
    rw [Dyadic.value_numeral_of_isWhole whole, sub_self, abs_zero]
    norm_num
  | false =>
    rw [Dyadic.numeral, whole, if_neg Bool.false_ne_true, Numeral.value_ofHundredths,
      Dyadic.value_eq, ← mul_sub, abs_signOf_mul]
    exact abs_hundredths_sub x

/-- A finite double is written as a numeral that is not farther from it than half a hundredth, and
that is equal to it if it is a whole number. -/
theorem coordinateText_near (x : Float) (reading : Dyadic)
    (finite : Binary64.ofFloat x = .finite reading) :
    ∃ numeral : Numeral, (coordinateText x).toList = numeral.text ∧
      |numeral.value - reading.value| ≤ 1 / 200 ∧
      ∀ k : ℤ, reading.value = k → numeral.value = k := by
  refine ⟨reading.numeral, ?_, reading.abs_value_numeral_sub, ?_⟩
  · rw [coordinateText, finite, Dyadic.text_numeral]
  · intro k hk
    rw [Dyadic.value_numeral_of_isWhole (Dyadic.isWhole_of_value hk), hk]

theorem coordinateText_near_eighth :
    Binary64.ofFloat (-0.125) = .finite ⟨true, 4503599627370496, -55⟩ ∧
      (∃ numeral : Numeral, (coordinateText (-0.125)).toList = numeral.text ∧
        |numeral.value - Dyadic.value ⟨true, 4503599627370496, -55⟩| ≤ 1 / 200) ∧
      Binary64.ofFloat 4611686018427387904 = .finite ⟨false, 4503599627370496, 10⟩ ∧
      Dyadic.value ⟨false, 4503599627370496, 10⟩ = (4611686018427387904 : ℤ) ∧
      ∃ numeral : Numeral, (coordinateText 4611686018427387904).toList = numeral.text ∧
        numeral.value = (4611686018427387904 : ℤ) := by
  have finite : Binary64.ofFloat (-0.125) = .finite ⟨true, 4503599627370496, -55⟩ := by decide
  have large : Binary64.ofFloat 4611686018427387904 = .finite ⟨false, 4503599627370496, 10⟩ := by
    decide
  have whole : Dyadic.value ⟨false, 4503599627370496, 10⟩ = (4611686018427387904 : ℤ) := by
    norm_num [Dyadic.value, signOf]
  obtain ⟨numeral, shown, near, -⟩ := coordinateText_near _ _ finite
  obtain ⟨full, written, -, equal⟩ := coordinateText_near _ _ large
  exact ⟨finite, ⟨numeral, shown, near⟩, large, whole, full, written, equal _ whole⟩

end Handoff
