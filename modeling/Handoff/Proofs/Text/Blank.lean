import Handoff.Text.Blank
import Handoff.Text.Word
import Mathlib.Data.List.DropRight
import Mathlib.Data.List.TakeWhile
import Mathlib.Tactic.IntervalCases

/-! # Spaces and trimming

No space is part of a word. A text that neither starts nor ends with a space is trimmed already, and
what is trimmed off a text stands around what is kept.
-/

namespace Handoff.Text

def spaceCodes : List Nat :=
  [0x09, 0x0A, 0x0B, 0x0C, 0x0D, 0x1C, 0x1D, 0x1E, 0x1F, 0x20, 0x85, 0xA0, 0x1680, 0x2000, 0x2001,
   0x2002, 0x2003, 0x2004, 0x2005, 0x2006, 0x2007, 0x2008, 0x2009, 0x200A, 0x2028, 0x2029, 0x202F,
   0x205F, 0x3000]

theorem mem_spaceCodes {c : Char} (h : isSpace c = true) : c.toNat ∈ spaceCodes := by
  simp only [isSpace, isBlank, Bool.or_eq_true, Bool.and_eq_true, decide_eq_true_eq,
    beq_iff_eq] at h
  generalize c.toNat = n at h ⊢
  rcases h with ((((((((((h | h) | h) | h) | h) | h) | h) | h) | h) | h) | h) | h
  all_goals first
    | (subst h; decide)
    | (obtain ⟨low, high⟩ := h; interval_cases n <;> decide)

theorem isWord_of_isSpace {c : Char} (h : isSpace c = true) : isWord c = false := by
  have all : ∀ n ∈ spaceCodes, isWord (Char.ofNat n) = false := by decide +kernel
  simpa using all c.toNat (mem_spaceCodes h)

/-! ## Trimming -/

variable {p : Char → Bool} {text : List Char}

theorem dropWhile_append_cons {c : Char} (hc : p c = false) (x y : List Char) :
    (x ++ c :: y).dropWhile p = x.dropWhile p ++ c :: y := by
  rw [List.dropWhile_append]
  split
  · rename_i h
    rw [List.isEmpty_iff.mp h, List.nil_append, List.dropWhile_cons_of_neg (by simp [hc])]
  · rfl

theorem rdropWhile_append_cons {c : Char} (hc : p c = false) (x y : List Char) :
    (x ++ c :: y).rdropWhile p = x ++ c :: y.rdropWhile p := by
  have turned : (x ++ c :: y).reverse = y.reverse ++ c :: x.reverse := by simp
  rw [List.rdropWhile, turned, dropWhile_append_cons hc, List.reverse_append, List.reverse_cons,
    List.reverse_reverse, List.append_assoc]
  rfl

theorem trimBoth_eq (p : Char → Bool) (text : List Char) :
    trimBoth p text = (text.dropWhile p).rdropWhile p := rfl

theorem trimBoth_around (p : Char → Bool) (text : List Char) :
    ∃ before after, text = before ++ trimBoth p text ++ after ∧ (∀ c ∈ before, p c = true) ∧
      ∀ c ∈ after, p c = true := by
  refine ⟨text.takeWhile p, ((text.dropWhile p).reverse.takeWhile p).reverse, ?_,
    fun c hc => List.mem_takeWhile_imp hc, fun c hc => ?_⟩
  · rw [List.append_assoc, trimBoth, ← List.reverse_append, List.takeWhile_append_dropWhile,
      List.reverse_reverse, List.takeWhile_append_dropWhile]
  · exact List.mem_takeWhile_imp (List.mem_reverse.mp hc)

theorem trimBoth_infix (p : Char → Bool) (text : List Char) :
    ∃ before after, text = before ++ trimBoth p text ++ after := by
  obtain ⟨before, after, he, -, -⟩ := trimBoth_around p text
  exact ⟨before, after, he⟩

theorem trimBoth_eq_self (first : ∀ c ∈ text.head?, p c = false)
    (last : ∀ c ∈ text.getLast?, p c = false) : trimBoth p text = text := by
  have front : text.dropWhile p = text := by
    cases text with
    | nil => rfl
    | cons c rest => simp [first c rfl]
  rw [trimBoth, front]
  cases h : text.reverse with
  | nil => simpa using h
  | cons c rest =>
    have hc : p c = false := last c (by simp [List.getLast?_eq_head?_reverse, h])
    rw [List.dropWhile_cons_of_neg (by simp [hc]), ← h, List.reverse_reverse]

theorem getLast?_trimBoth (p : Char → Bool) (text : List Char) :
    ∀ c ∈ (trimBoth p text).getLast?, p c = false := by
  intro c hc
  rw [trimBoth, List.getLast?_reverse] at hc
  have first := List.head?_dropWhile_not p (text.dropWhile p).reverse
  rw [Option.mem_def.mp hc] at first
  exact first

theorem head?_trimBoth (p : Char → Bool) (text : List Char) :
    ∀ c ∈ (trimBoth p text).head?, p c = false := by
  intro c hc
  obtain ⟨rest, hr⟩ := List.rdropWhile_prefix p (text.dropWhile p)
  have first := List.head?_dropWhile_not p text
  rw [← hr, List.head?_append, ← trimBoth_eq, Option.mem_def.mp hc] at first
  exact first

theorem trimBoth_trimBoth (p : Char → Bool) (text : List Char) :
    trimBoth p (trimBoth p text) = trimBoth p text :=
  trimBoth_eq_self (head?_trimBoth p text) (getLast?_trimBoth p text)

theorem trimBoth_append_cons {c : Char} (hc : p c = false) (text : List Char) :
    trimBoth p (text ++ [c]) = text.dropWhile p ++ [c] := by
  rw [trimBoth_eq, dropWhile_append_cons hc, rdropWhile_append_cons hc]
  rfl

theorem trimBoth_append_left {gap : List Char} (spaces : ∀ c ∈ gap, p c = true) (text : List Char) :
    trimBoth p (gap ++ text) = trimBoth p text := by
  rw [trimBoth, List.dropWhile_append_of_pos spaces, ← trimBoth]

theorem trimBoth_append_right {gap : List Char} (spaces : ∀ c ∈ gap, p c = true)
    (text : List Char) :
    trimBoth p (text ++ gap) = trimBoth p text := by
  have back (x : List Char) : (x ++ gap).rdropWhile p = x.rdropWhile p := by
    rw [List.rdropWhile, List.reverse_append, List.dropWhile_append_of_pos (by simpa using spaces)]
    rfl
  rw [trimBoth_eq, trimBoth_eq, List.dropWhile_append]
  split
  · rename_i none
    rw [List.isEmpty_iff.mp none, List.dropWhile_eq_nil_iff.mpr spaces]
  · exact back _

/-- What trimming keeps, it keeps as often as it stands in the text. -/
theorem trimBoth_around_solid {p : Char → Bool} {core : List Char} (x y : List Char)
    (ne : core ≠ [])
    (first : ∀ c ∈ core.head?, p c = false) (last : ∀ c ∈ core.getLast?, p c = false) :
    trimBoth p (x ++ core ++ y) = x.dropWhile p ++ core ++ y.rdropWhile p := by
  obtain ⟨c, tail, hc⟩ := List.exists_cons_of_ne_nil ne
  obtain ⟨front, d, hd⟩ := (List.eq_nil_or_concat' core).resolve_left ne
  have opened : (x ++ core ++ y).dropWhile p = x.dropWhile p ++ core ++ y := by
    rw [List.append_assoc, List.append_assoc, hc, List.cons_append]
    exact dropWhile_append_cons (first c (by rw [hc]; rfl)) x _
  have closed : (x.dropWhile p ++ core ++ y).rdropWhile p = x.dropWhile p ++ core ++
      y.rdropWhile p := by
    have stop : p d = false := last d (by rw [hd]; simp)
    rw [hd, ← List.append_assoc, List.append_assoc _ [d], List.append_assoc _ [d]]
    exact rdropWhile_append_cons stop _ y
  rw [trimBoth_eq, opened, closed]

theorem count_trimBoth {c : Char} (hc : p c = false) (text : List Char) :
    (trimBoth p text).count c = text.count c := by
  have front (x : List Char) : (x.dropWhile p).count c = x.count c := by
    have absent : c ∉ x.takeWhile p := fun hm => by simp [List.mem_takeWhile_imp hm] at hc
    conv_rhs => rw [← List.takeWhile_append_dropWhile (p := p) (l := x)]
    rw [List.count_append, List.count_eq_zero.mpr absent, Nat.zero_add]
  rw [trimBoth, List.count_reverse, front, List.count_reverse, front]

theorem mem_trimBoth_iff {c : Char} (hc : p c = false) : c ∈ trimBoth p text ↔ c ∈ text := by
  rw [← List.count_pos_iff, count_trimBoth hc, List.count_pos_iff]

end Handoff.Text
