import Handoff.Component.Artifacts
import Handoff.Proofs.Text.Ascii

/-! # Names in form

The name of a component starts with a letter and holds nothing but ASCII letters and digits, and its
class nothing but these and hyphens. So neither is ever blank.
-/

namespace Handoff.Component

/-! ## Names of components -/

theorem isAlphanum_nameWordsAfter {current text : List Char}
    (letters : ∀ c ∈ current, c.isAlphanum = true) :
    ∀ word ∈ nameWordsAfter current text, ∀ c ∈ word, c.isAlphanum = true := by
  induction text generalizing current with
  | nil =>
    unfold nameWordsAfter
    split
    · simp
    · simpa using letters
  | cons c rest ih =>
    unfold nameWordsAfter
    split
    · rename_i hc
      exact ih (List.forall_mem_cons.mpr ⟨hc, letters⟩)
    · split
      · exact ih (by simp)
      · exact List.forall_mem_cons.mpr ⟨by simpa using letters, ih (by simp)⟩

theorem isAlphanum_capitalize {word : List Char} (h : ∀ c ∈ word, c.isAlphanum = true) :
    ∀ c ∈ capitalize word, c.isAlphanum = true := by
  cases word with
  | nil => simp [capitalize]
  | cons c rest =>
    obtain ⟨first, others⟩ := List.forall_mem_cons.mp h
    exact List.forall_mem_cons.mpr ⟨Text.isAlphanum_toUpper first, others⟩

theorem isAlphanum_nameOf (name : List Char) : ∀ c ∈ nameOf name, c.isAlphanum = true := by
  have words : ∀ c ∈ (nameWords name).flatMap capitalize, c.isAlphanum = true := by
    intro c hc
    obtain ⟨word, hw, hc⟩ := List.mem_flatMap.mp hc
    exact isAlphanum_capitalize (isAlphanum_nameWordsAfter (by simp) word hw) c hc
  unfold nameOf
  split
  · decide
  · rename_i c rest h
    rw [h] at words
    split
    · exact words
    · have lead : ∀ c ∈ digitLead, c.isAlphanum = true := by decide
      exact List.forall_mem_append.mpr ⟨lead, words⟩

theorem nameOf_ne_nil (name : List Char) : nameOf name ≠ [] := by
  unfold nameOf
  split
  · decide
  · split <;> simp

theorem isAlpha_nameOf (name : List Char) : ∀ c ∈ (nameOf name).head?, c.isAlpha = true := by
  unfold nameOf
  split
  · decide
  · split
    case isTrue hc => exact fun d hd => Option.some.inj hd ▸ hc
    case isFalse =>
      intro d hd
      rw [List.head?_append_of_ne_nil _ (by decide)] at hd
      cases hd
      decide

theorem isBlankText_nameOfString (name : String) : isBlankText (nameOfString name) = false := by
  obtain ⟨c, rest, h⟩ := List.exists_cons_of_ne_nil (nameOf_ne_nil name.toList)
  have hc : Text.isSpace c = false :=
    Text.not_isSpace_of_isAlphanum (isAlphanum_nameOf name.toList c (h ▸ List.mem_cons_self))
  simp [isBlankText, nameOfString, h, hc]

/-! ## Names of classes -/

theorem isClassChar_iff {c : Char} : isClassChar c = true ↔ c.isAlphanum = true ∨ c = '-' := by
  simp [isClassChar]

theorem toNat_lt_of_isClassChar {c : Char} (h : isClassChar c = true) : c.toNat < 128 := by
  rcases isClassChar_iff.mp h with letter | rfl
  · exact Text.toNat_lt_of_isAlphanum letter
  · decide

theorem not_isSpace_of_isClassChar {c : Char} (h : isClassChar c = true) :
    Text.isSpace c = false := by
  rcases isClassChar_iff.mp h with letter | rfl
  · exact Text.not_isSpace_of_isAlphanum letter
  · decide

theorem isClassChar_joinRuns (inRun : Bool) (text : List Char) :
    ∀ c ∈ joinRuns inRun text, isClassChar c = true := by
  induction text generalizing inRun with
  | nil => simp [joinRuns]
  | cons c rest ih =>
    unfold joinRuns
    split
    · rename_i hc
      exact List.forall_mem_cons.mpr ⟨hc, ih false⟩
    · split
      · exact ih true
      · exact List.forall_mem_cons.mpr ⟨by decide, ih true⟩

theorem isClassChar_toLower {c : Char} (h : isClassChar c = true) :
    isClassChar c.toLower = true := by
  rcases isClassChar_iff.mp h with letter | rfl
  · exact isClassChar_iff.mpr (.inl (Text.isAlphanum_toLower letter))
  · decide

theorem isClassChar_classOf (name : List Char) : ∀ c ∈ classOf name, isClassChar c = true := by
  have kept (text : List Char) : ∀ c ∈ trimHyphens (joinRuns false text), isClassChar c = true := by
    intro c hc
    rw [trimHyphens, List.mem_reverse] at hc
    have inner := List.mem_reverse.mp ((List.dropWhile_sublist _).subset hc)
    exact isClassChar_joinRuns false text c ((List.dropWhile_sublist _).subset inner)
  unfold classOf
  dsimp only
  split
  · decide
  · intro c hc
    obtain ⟨d, hd, rfl⟩ := List.mem_map.mp hc
    exact isClassChar_toLower (kept _ d hd)

theorem classOf_ne_nil (name : List Char) : classOf name ≠ [] := by
  unfold classOf
  dsimp only
  split
  · decide
  · rename_i kept filled
    simpa using filled

end Handoff.Component
