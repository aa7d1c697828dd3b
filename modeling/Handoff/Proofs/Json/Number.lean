import Mathlib.Data.List.Basic
import Handoff.Json.Writer
import Handoff.Proofs.Json.Grammar

/-! # Written numbers

A whole number has no needless zero in front, and the fewest digits of a double are those of a
positive number. So every number is written as JSON has it, whichever layout it is given.
-/

namespace Handoff

open Json

variable {x : Decimal} {num low high den : Nat} {closed : Bool} {place : Int}

/-! ## Whole numbers -/

namespace Json

variable {text more : List Char}

theorem IsDigits.append (h : IsDigits text) (hm : ∀ c ∈ more, c.isDigit = true) :
    IsDigits (text ++ more) :=
  ⟨List.append_ne_nil_of_left_ne_nil h.1 more, List.forall_mem_append.mpr ⟨h.2, hm⟩⟩

theorem IsDigits.take (h : IsDigits text) {n : Nat} (pos : 0 < n) : IsDigits (text.take n) := by
  refine ⟨?_, fun c hc => h.2 c (List.mem_of_mem_take hc)⟩
  rw [ne_eq, List.take_eq_nil_iff, not_or]
  exact ⟨Nat.ne_of_gt pos, h.1⟩

theorem IsDigits.drop (h : IsDigits text) {n : Nat} (inside : n < text.length) :
    IsDigits (text.drop n) := by
  refine ⟨?_, fun c hc => h.2 c (List.mem_of_mem_drop hc)⟩
  rw [ne_eq, List.drop_eq_nil_iff]
  exact Nat.not_le.mpr inside

theorem head?_take {n : Nat} (pos : 0 < n) : (text.take n).head? = text.head? := by
  cases n with
  | zero => cases pos
  | succ n => cases text <;> rfl

theorem isFraction_zero : IsFraction ['.', '0'] := .inr ⟨['0'], ⟨by simp, by decide⟩, rfl⟩

theorem isDigit_zeros (n : Nat) : ∀ c ∈ List.replicate n '0', c.isDigit = true := by
  intro c hc
  rw [List.eq_of_mem_replicate hc]
  decide

theorem isDigits_toDigits (n : Nat) : IsDigits (Nat.toDigits 10 n) :=
  ⟨Nat.toDigits_ne_nil, fun _ hc => Nat.isDigit_of_mem_toDigits (by decide) (by decide) hc⟩

theorem head?_toDigits {n : Nat} (pos : 0 < n) : (Nat.toDigits 10 n).head? ≠ some '0' := by
  induction n using Nat.strongRecOn with
  | ind n ih =>
    rcases Nat.lt_or_ge n 10 with small | large
    · have digit : ∀ n < 10, 0 < n → [Nat.digitChar n].head? ≠ some '0' := by decide
      rw [Nat.toDigits_of_lt_base small]
      exact digit n small pos
    · have ne : Nat.toDigits 10 (n / 10) ≠ [] := Nat.toDigits_ne_nil
      rw [Nat.toDigits_of_base_le (by decide) large, List.head?_append_of_ne_nil _ ne]
      exact ih (n / 10) (Nat.div_lt_self pos (by decide)) (Nat.div_pos large (by decide))

theorem isWhole_toDigits (n : Nat) : IsWhole (Nat.toDigits 10 n) := by
  rcases Nat.eq_zero_or_pos n with rfl | pos
  · exact .inl rfl
  · exact .inr ⟨isDigits_toDigits n, head?_toDigits pos⟩

theorem IsWhole.isMagnitude (h : IsWhole text) : IsMagnitude text :=
  ⟨text, [], [], h, .inl rfl, .inl rfl, by simp⟩

theorem isNumber_signed (negative : Bool) {magnitude : String} (h : IsMagnitude magnitude.toList) :
    IsNumber (signed negative magnitude).toList := by
  cases negative with
  | false => exact ⟨[], by simp, magnitude.toList, h, rfl⟩
  | true => exact ⟨['-'], by simp, magnitude.toList, h, by simp [signed]⟩

end Json

theorem toList_toString (n : Nat) : (toString n).toList = Nat.toDigits 10 n := Nat.toList_repr

theorem isNumber_intText (n : Int) : IsNumber (intText n).toList :=
  isNumber_signed _ (toList_toString n.natAbs ▸ (isWhole_toDigits n.natAbs).isMagnitude)

/-! ## Decimals -/

theorem isDigits_twoDigits (n : Nat) : IsDigits (twoDigits n).toList := by
  unfold twoDigits
  split
  · rw [String.toList_append, toList_toString]
    exact IsDigits.append ⟨by decide, by decide⟩ (isDigits_toDigits n).2
  · rw [toList_toString]
    exact isDigits_toDigits n

theorem isMagnitude_scientific {digits head tail sign exponent : String}
    (all : IsDigits digits.toList)
    (first : digits.toList.head? ≠ some '0') (hh : head.toList = digits.toList.take 1)
    (ht : tail.toList = digits.toList.drop 1) (hs : sign.toList ∈ [[], ['+'], ['-']])
    (he : IsDigits exponent.toList) :
    IsMagnitude ((if tail.isEmpty then digits else head ++ "." ++ tail) ++ "e" ++ sign ++
      exponent).toList := by
  have power : IsExponent ('e' :: (sign.toList ++ exponent.toList)) :=
    .inr ⟨'e', by simp, sign.toList, hs, exponent.toList, he, rfl⟩
  split
  case isTrue alone =>
    exact ⟨digits.toList, [], _, .inr ⟨all, first⟩, .inl rfl, power, by simp⟩
  case isFalse more =>
    have inside : 1 < digits.toList.length := by
      rw [String.isEmpty_iff, ← String.toList_eq_nil_iff, ht, List.drop_eq_nil_iff] at more
      exact Nat.not_le.mp more
    refine ⟨head.toList, '.' :: tail.toList, _, .inr ⟨?_, ?_⟩, .inr ⟨tail.toList, ?_, rfl⟩,
      power, by simp⟩
    · exact hh ▸ IsDigits.take all Nat.one_pos
    · rwa [hh, head?_take Nat.one_pos]
    · exact ht ▸ IsDigits.drop all inside

/-- A positive decimal is a number in JSON, positional or with an exponent. -/
theorem Decimal.isMagnitude_text (layout : DecimalLayout) (pos : 0 < x.digits) :
    IsMagnitude (x.text layout).toList := by
  have all : IsDigits (toString x.digits).toList :=
    toList_toString x.digits ▸ isDigits_toDigits x.digits
  have first : (toString x.digits).toList.head? ≠ some '0' :=
    toList_toString x.digits ▸ head?_toDigits pos
  unfold Decimal.text
  generalize toString x.digits = shown at *
  dsimp only
  split
  case isTrue near =>
    split
    case isTrue whole =>
      refine ⟨shown.toList ++ List.replicate x.exponent.toNat '0', ['.', '0'], [],
        .inr ⟨all.append (isDigit_zeros _), ?_⟩, isFraction_zero, .inl rfl, by simp⟩
      rwa [List.head?_append_of_ne_nil _ all.1]
    case isFalse broken =>
      split
      case isTrue positional =>
        -- the point stands behind at least one digit and before at least one
        have behind : 0 < (x.exponent + shown.length - 1 + 1).toNat := by omega
        have ahead : (x.exponent + shown.length - 1 + 1).toNat < shown.toList.length := by
          rw [String.length_toList]
          omega
        generalize (x.exponent + shown.length - 1 + 1).toNat = places at behind ahead ⊢
        refine ⟨shown.toList.take places, '.' :: shown.toList.drop places, [],
          .inr ⟨IsDigits.take all behind, by rwa [head?_take behind]⟩,
          .inr ⟨_, IsDigits.drop all ahead, rfl⟩, .inl rfl, ?_⟩
        simp [String.toList_copy_take, String.toList_copy_drop]
      case isFalse small =>
        generalize (-(x.exponent + shown.length - 1) - 1).toNat = zeros
        refine ⟨['0'], '.' :: (List.replicate zeros '0' ++ shown.toList), [], .inl rfl,
          .inr ⟨_, ⟨by simp [all.1], ?_⟩, rfl⟩, .inl rfl, by simp⟩
        exact List.forall_mem_append.mpr ⟨isDigit_zeros _, all.2⟩
  case isFalse far =>
    refine isMagnitude_scientific all first ?_ ?_ ?_ (isDigits_twoDigits _)
    · simp [String.toList_copy_take]
    · simp [String.toList_copy_drop]
    · split <;> simp

/-! ## The fewest digits -/

theorem Decimal.digits_trimmed_pos (fuel : Nat) (pos : 0 < x.digits) :
    0 < (x.trimmed fuel).digits := by
  fun_induction Decimal.trimmed fuel x with
  | case1 x => exact pos
  | case2 fuel x zero ih =>
    simp only [bne_iff_ne, Bool.and_eq_true, beq_iff_eq] at zero
    exact ih (Nat.div_pos (by omega) (by decide))
  | case3 fuel x stop => exact pos

theorem pos_of_between {digits : Nat} (positive : 0 < low)
    (h : between digits place low high den closed = true) : 0 < digits := by
  refine Nat.pos_of_ne_zero ?_
  rintro rfl
  have scaled : 0 < low * Nat.pow 10 (-place).toNat :=
    Nat.mul_pos positive (Nat.pow_pos (by decide))
  unfold between at h
  rw [Nat.zero_mul, Nat.zero_mul] at h
  split at h
  · exact Nat.not_le.mpr scaled (of_decide_eq_true (Bool.and_eq_true_iff.mp h).1)
  · exact Nat.not_lt_zero _ (of_decide_eq_true (Bool.and_eq_true_iff.mp h).1)

theorem div_le_roundHalfEven (num den : Nat) : num / den ≤ roundHalfEven num den := by
  unfold roundHalfEven
  dsimp only
  split
  · exact Nat.le_refl _
  · exact Nat.le_succ _

theorem digits_nearestOnGrid_pos (positive : 0 < low)
    (h : nearestOnGrid num low high den closed place = some x) : 0 < x.digits := by
  unfold nearestOnGrid at h
  dsimp only at h
  split at h
  · next both =>
    obtain rfl := Option.some.inj h
    exact Nat.lt_of_lt_of_le (pos_of_between positive (Bool.and_eq_true_iff.mp both).1)
      (div_le_roundHalfEven _ _)
  · split at h
    · next below =>
      obtain rfl := Option.some.inj h
      exact pos_of_between positive below
    · split at h
      · obtain rfl := Option.some.inj h
        exact Nat.succ_pos _
      · cases h

/-- The fewest digits of a double that is not zero are those of a positive number. -/
theorem Dyadic.digits_shortest_pos {x : Dyadic} (pos : 0 < x.mantissa) : 0 < x.shortest.digits := by
  refine Decimal.digits_trimmed_pos 20 ?_
  rw [List.headD_eq_head?_getD]
  generalize hg : List.head? _ = found
  cases found with
  | none => exact pos
  | some point =>
    obtain ⟨n, -, near⟩ := List.mem_filterMap.mp (List.mem_of_head? hg)
    refine digits_nearestOnGrid_pos (Nat.mul_pos ?_ (Nat.pow_pos (by decide))) near
    dsimp only
    split <;> omega

theorem Json.isValue_writeFloat (x : Float) : IsValue (writeFloat x).toList := by
  unfold writeFloat
  split
  case h_1 negative reading => cases negative <;> exact .word (by decide)
  case h_2 reading => exact .word (by decide)
  case h_3 value reading =>
    refine .number ?_
    rw [floatText, reading]
    refine isNumber_signed _ ?_
    split
    case isTrue zero => exact ⟨['0'], ['.', '0'], [], .inl rfl, isFraction_zero, .inl rfl, rfl⟩
    case isFalse more =>
      refine Decimal.isMagnitude_text plainLayout (Dyadic.digits_shortest_pos ?_)
      exact Nat.pos_of_ne_zero (by simpa using more)

end Handoff
