import Handoff.Proofs.Text.Blank
import Handoff.Stylesheet.Value

/-! # Values and their importance

The mark of importance is nine letters at the end of a value with an exclamation mark before them. A
space before the value does not matter to it, and a value that does not end in its last letter is
kept as it is.
-/

namespace Handoff.Stylesheet

open Text

variable {c : Char} {value word : List Char}

theorem trimEnd_cons_space (h : isSpace c = true) (text : List Char) :
    trimEnd (c :: text) = if trimEnd text = [] then [] else c :: trimEnd text := by
  simp only [trimEnd, List.reverse_cons, List.dropWhile_append, List.reverse_eq_nil_iff]
  by_cases none : text.reverse.dropWhile isSpace = []
  · simp [none, h]
  · simp [none]

theorem trim_cons_space (h : isSpace c = true) (text : List Char) : trim (c :: text) = trim text :=
  trimBoth_append_left (List.forall_mem_singleton.mpr h) text

theorem length_of_isImportantWord (h : isImportantWord word = true) : word.length = 9 := by
  cases word with
  | nil => cases h
  | cons c rest =>
    simp only [isImportantWord, Bool.and_eq_true, beq_iff_eq] at h
    have letters := congrArg List.length h.2
    rw [List.length_map] at letters
    rw [List.length_cons, letters]
    rfl

theorem isImportantWord_cons_space (h : isSpace c = true) (word : List Char) :
    isImportantWord (c :: word) = false := by
  have letter : isAnyI c = false := by
    by_contra any
    simp only [isAnyI, Bool.not_eq_false, Bool.or_eq_true, beq_iff_eq] at any
    rcases any with ((rfl | rfl) | rfl) | rfl <;> exact absurd h (by decide)
  simp [isImportantWord, letter]

theorem withoutImportance_cons_space (h : isSpace c = true) (value : List Char) :
    withoutImportance (c :: value) = withoutImportance value := by
  unfold withoutImportance
  rw [trimEnd_cons_space h, trim_cons_space h]
  by_cases none : trimEnd value = []
  · rw [if_pos none, none]
  · rw [if_neg none]
    generalize trimEnd value = body
    dsimp only
    by_cases short : body.length < 9
    · have plain : isImportantWord (body.drop (body.length - 9)) = false := by
        rw [Bool.eq_false_iff]
        intro word
        have := length_of_isImportantWord word
        rw [List.length_drop] at this
        omega
      have start : (c :: body).length - 9 = 0 := by simp; omega
      rw [start, List.drop_zero, isImportantWord_cons_space h, plain]
      rfl
    · have start : (c :: body).length - 9 = body.length - 9 + 1 := by simp; omega
      rw [start, List.drop_succ_cons, List.take_succ_cons]
      generalize body.take (body.length - 9) = front
      rw [trimEnd_cons_space h]
      split
      · by_cases blank : trimEnd front = []
        · rw [if_pos blank, blank]
        · rw [if_neg blank]
          obtain ⟨d, rest, hf⟩ := List.exists_cons_of_ne_nil blank
          rw [hf, List.getLast?_cons_cons, List.dropLast_cons_cons, trim_cons_space h]
      · rfl

theorem getLast?_of_isImportantWord (h : isImportantWord word = true) :
    ∃ c, word.getLast? = some c ∧ c.toLower = 't' := by
  cases word with
  | nil => cases h
  | cons d rest =>
    simp only [isImportantWord, Bool.and_eq_true, beq_iff_eq] at h
    have last : (rest.map Char.toLower).getLast? = some 't' := by rw [h.2]; rfl
    rw [List.getLast?_map] at last
    obtain ⟨c, hc, ht⟩ := Option.map_eq_some_iff.mp last
    exact ⟨c, by rw [List.getLast?_cons, hc]; rfl, ht⟩

theorem withoutImportance_of_getLast? (hl : value.getLast? = some c) (solid : isSpace c = false)
    (other : c.toLower ≠ 't') : withoutImportance value = trim value := by
  obtain ⟨front, rfl⟩ := List.getLast?_eq_some_iff.mp hl
  have whole : trimEnd (front ++ [c]) = front ++ [c] := by
    simp [trimEnd, solid]
  have plain : isImportantWord ((front ++ [c]).drop ((front ++ [c]).length - 9)) = false := by
    rw [Bool.eq_false_iff]
    intro word
    obtain ⟨d, hd, ht⟩ := getLast?_of_isImportantWord word
    have filled : 0 < (front ++ [c]).length := by simp
    rw [List.getLast?_drop, if_neg (by omega), hl] at hd
    exact other (Option.some.inj hd ▸ ht)
  rw [withoutImportance, whole, plain]
  rfl

end Handoff.Stylesheet
