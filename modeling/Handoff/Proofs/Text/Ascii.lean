import Handoff.Proofs.Text.Blank
import Handoff.Proofs.Text.Scan
import Handoff.Text.Case
import Handoff.Text.Digit
import Handoff.Text.Lines

/-! # ASCII letters and digits

The letters and digits of ASCII are below code point 128, where a property can be checked character
by character. They are parts of words, so none of them is a space.
-/

namespace Handoff.Text

variable {c : Char}

theorem ascii_forall {p : Char → Prop} (all : ∀ n < 128, p (Char.ofNat n)) (c : Char)
    (small : c.toNat < 128) : p c := by
  simpa using all c.toNat small

theorem toNat_lt_of_isAlphanum (h : c.isAlphanum = true) : c.toNat < 128 := by
  change ((decide (65 ≤ c.val ∧ c.val ≤ 90) || (97 ≤ c.val && c.val ≤ 122)) ||
    (48 ≤ c.val && c.val ≤ 57)) = true at h
  simp only [Bool.or_eq_true, Bool.and_eq_true, decide_eq_true_eq, UInt32.le_iff_toNat_le] at h
  change ((65 ≤ c.toNat ∧ c.toNat ≤ 90) ∨ (97 ≤ c.toNat ∧ c.toNat ≤ 122)) ∨
    (48 ≤ c.toNat ∧ c.toNat ≤ 57) at h
  omega

theorem isAlphanum_toUpper (h : c.isAlphanum = true) : c.toUpper.isAlphanum = true :=
  ascii_forall (p := fun c => c.isAlphanum = true → c.toUpper.isAlphanum = true) (by decide) c
    (toNat_lt_of_isAlphanum h) h

theorem isAlphanum_toLower (h : c.isAlphanum = true) : c.toLower.isAlphanum = true :=
  ascii_forall (p := fun c => c.isAlphanum = true → c.toLower.isAlphanum = true) (by decide) c
    (toNat_lt_of_isAlphanum h) h

theorem lower_of_ascii {text : List Char} (small : ∀ c ∈ text, c.toNat < 128) :
    lower text = text.map Char.toLower := by
  have after (before : List Char) : lowerAfter before text = text.map Char.toLower := by
    induction text generalizing before with
    | nil => rfl
    | cons c rest ih =>
      obtain ⟨first, others⟩ := List.forall_mem_cons.mp small
      have sigma : (c == 'Σ') = false := beq_false_of_ne fun same =>
        absurd (same ▸ first) (by decide)
      rw [lowerAfter, sigma, ih others, lowerChar, if_pos first]
      rfl
  exact after []

theorem not_isSpace_of_isAlphanum (h : c.isAlphanum = true) : isSpace c = false := by
  have word := isWord_of_isAlphanum (toNat_lt_of_isAlphanum h) h
  by_contra space
  rw [isWord_of_isSpace (by simpa using space)] at word
  cases word

theorem digitValue?_of_isDigit (h : c.isDigit = true) :
    digitValue? c = some (c.toNat - '0'.toNat) := by
  refine ascii_forall (p := fun c => c.isDigit = true → digitValue? c = some (c.toNat - '0'.toNat))
    ?_ c ?_ h
  · decide
  · exact toNat_lt_of_isAlphanum (by simp [Char.isAlphanum, h])

theorem isLineBoundary_of_isDigit (h : c.isDigit = true) : isLineBoundary c = false := by
  refine ascii_forall (p := fun c => c.isDigit = true → isLineBoundary c = false) ?_ c ?_ h
  · decide
  · exact toNat_lt_of_isAlphanum (by simp [Char.isAlphanum, h])

end Handoff.Text
