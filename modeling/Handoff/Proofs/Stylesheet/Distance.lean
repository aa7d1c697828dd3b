import Handoff.Stylesheet.Distance
import Mathlib.Order.Bounds.Basic
import Mathlib.Order.MinMax

/-! # The edit distance

An edit inserts, deletes or replaces one character of a word. The table of distances holds, for the
words up to each place of both, the least number of edits that turn one into the other: its first
row and column by the lengths of these words, and every other cell by the three before it. Where
both words end in the same character, the cell on the diagonal is as good as either of the other two
with one more edit.
-/

namespace Handoff.Stylesheet

variable {a b : List Char} {c d : Char} {m n : Nat}

/-! ## Edits -/

inductive Edit : List Char → List Char → Prop
  | insert (c : Char) (rest : List Char) : Edit rest (c :: rest)
  | delete (c : Char) (rest : List Char) : Edit (c :: rest) rest
  | replace (c d : Char) (rest : List Char) : Edit (c :: rest) (d :: rest)
  | behind (c : Char) {a b : List Char} : Edit a b → Edit (c :: a) (c :: b)

/-- A number of edits, one after the other, turns one word into another. -/
inductive Edits : Nat → List Char → List Char → Prop
  | none (word : List Char) : Edits 0 word word
  | next {n : Nat} {a b word : List Char} : Edits n a b → Edit b word → Edits (n + 1) a word

theorem Edit.append_left (h : Edit a b) (front : List Char) : Edit (front ++ a) (front ++ b) := by
  induction front with
  | nil => exact h
  | cons c front ih => exact .behind c ih

theorem Edit.append_right (h : Edit a b) (back : List Char) : Edit (a ++ back) (b ++ back) := by
  induction h with
  | insert c rest => exact .insert c _
  | delete c rest => exact .delete c _
  | replace c d rest => exact .replace c d _
  | behind c _ ih => exact .behind c ih

theorem Edit.reverse (h : Edit a b) : Edit a.reverse b.reverse := by
  induction h with
  | insert c rest => simpa using (Edit.insert c []).append_left rest.reverse
  | delete c rest => simpa using (Edit.delete c []).append_left rest.reverse
  | replace c d rest => simpa using (Edit.replace c d []).append_left rest.reverse
  | behind c _ ih => simpa using ih.append_right [c]

theorem Edits.reverse (h : Edits n a b) : Edits n a.reverse b.reverse := by
  induction h with
  | none word => exact .none _
  | next _ edit ih => exact .next ih edit.reverse

theorem Edits.behind (h : Edits n a b) (c : Char) : Edits n (c :: a) (c :: b) := by
  induction h with
  | none word => exact .none _
  | next _ edit ih => exact .next ih (.behind c edit)

theorem Edits.after {word : List Char} (edit : Edit word a) (h : Edits n a b) :
    Edits (n + 1) word b := by
  induction h with
  | none word => exact .next (.none _) edit
  | next _ last ih => exact .next (ih edit) last

/-! ## Alignments -/

/-- Two words side by side: each character of either is kept, replaced by one of the other, or
stands alone. All but the kept ones are counted. -/
inductive Aligned : Nat → List Char → List Char → Prop
  | nil : Aligned 0 [] []
  | keep (c : Char) {n : Nat} {a b : List Char} : Aligned n a b → Aligned n (c :: a) (c :: b)
  | replace (c d : Char) {n : Nat} {a b : List Char} :
    Aligned n a b → Aligned (n + 1) (c :: a) (d :: b)
  | insert (d : Char) {n : Nat} {a b : List Char} : Aligned n a b → Aligned (n + 1) a (d :: b)
  | delete (c : Char) {n : Nat} {a b : List Char} : Aligned n a b → Aligned (n + 1) (c :: a) b

theorem aligned_self (word : List Char) : Aligned 0 word word := by
  induction word with
  | nil => exact .nil
  | cons c word ih => exact .keep c ih

theorem Aligned.edits (h : Aligned n a b) : Edits n a b := by
  induction h with
  | nil => exact .none []
  | keep c _ ih => exact ih.behind c
  | replace c d _ ih => exact .next (ih.behind c) (.replace c d _)
  | insert d _ ih => exact .next ih (.insert d _)
  | delete c _ ih => exact ih.after (.delete c _)

/-- After an edit of the second word, the words are aligned with at most one more count. -/
theorem Aligned.edit (h : Aligned n a b) {word : List Char} (edit : Edit b word) :
    ∃ m ≤ n + 1, Aligned m a word := by
  induction h generalizing word with
  | nil =>
    cases edit with
    | insert d => exact ⟨1, le_rfl, .insert d .nil⟩
  | @keep c n a b h ih =>
    cases edit with
    | insert d => exact ⟨n + 1, le_rfl, .insert d (.keep c h)⟩
    | delete => exact ⟨n + 1, le_rfl, .delete c h⟩
    | replace _ d => exact ⟨n + 1, le_rfl, .replace c d h⟩
    | behind _ edit =>
      obtain ⟨m, less, h⟩ := ih edit
      exact ⟨m, less, .keep c h⟩
  | @replace c d n a b h ih =>
    cases edit with
    | insert e => exact ⟨n + 2, le_rfl, .insert e (.replace c d h)⟩
    | delete => exact ⟨n + 1, Nat.le_succ _, .delete c h⟩
    | replace _ e => exact ⟨n + 1, Nat.le_succ _, .replace c e h⟩
    | behind _ edit =>
      obtain ⟨m, less, h⟩ := ih edit
      exact ⟨m + 1, Nat.succ_le_succ less, .replace c d h⟩
  | @insert d n a b h ih =>
    cases edit with
    | insert e => exact ⟨n + 2, le_rfl, .insert e (.insert d h)⟩
    | delete => exact ⟨n, by omega, h⟩
    | replace _ e => exact ⟨n + 1, Nat.le_succ _, .insert e h⟩
    | behind _ edit =>
      obtain ⟨m, less, h⟩ := ih edit
      exact ⟨m + 1, Nat.succ_le_succ less, .insert d h⟩
  | @delete c n a b h ih =>
    obtain ⟨m, less, h⟩ := ih edit
    exact ⟨m + 1, Nat.succ_le_succ less, .delete c h⟩

theorem Edits.aligned (h : Edits n a b) : ∃ m ≤ n, Aligned m a b := by
  induction h with
  | none word => exact ⟨0, le_rfl, aligned_self word⟩
  | next _ edit ih =>
    obtain ⟨m, less, h⟩ := ih
    obtain ⟨m', less', h'⟩ := h.edit edit
    exact ⟨m', less'.trans (Nat.succ_le_succ less), h'⟩

/-! ## The least number of edits -/

/-- The least number of edits that turn one word into another. -/
def IsDistance (n : Nat) (a b : List Char) : Prop := IsLeast {n | Edits n a b} n

theorem isDistance_reverse : IsDistance n a.reverse b.reverse ↔ IsDistance n a b := by
  have same : {n | Edits n a.reverse b.reverse} = {n | Edits n a b} := by
    ext n
    exact ⟨fun h => by simpa using h.reverse, Edits.reverse⟩
  rw [IsDistance, IsDistance, same]

/-- As many characters are counted as one word is longer than the other, or more. -/
theorem Aligned.length_le (h : Aligned n a b) :
    b.length ≤ a.length + n ∧ a.length ≤ b.length + n := by
  induction h <;> simp only [List.length_cons, List.length_nil] at * <;> omega

theorem Edits.length_le (h : Edits n a b) : b.length ≤ a.length + n ∧ a.length ≤ b.length + n := by
  obtain ⟨m, less, h⟩ := h.aligned
  have := h.length_le
  omega

theorem edits_insert (word : List Char) : Edits word.length [] word := by
  induction word with
  | nil => exact .none []
  | cons c word ih => exact .next ih (.insert c word)

theorem edits_delete (word : List Char) : Edits word.length word [] := by
  induction word with
  | nil => exact .none []
  | cons c word ih => exact ih.after (.delete c word)

theorem isDistance_nil_left (word : List Char) : IsDistance word.length [] word :=
  ⟨edits_insert word, fun n h => by simpa using h.length_le.1⟩

theorem isDistance_nil_right (word : List Char) : IsDistance word.length word [] :=
  ⟨edits_delete word, fun n h => by simpa using h.length_le.2⟩

/-- Of two words that begin with the same character, this is kept by some of the shortest
scripts. -/
theorem isDistance_keep (h : IsDistance n a b) (c : Char) : IsDistance n (c :: a) (c :: b) := by
  refine ⟨h.1.behind c, fun k script => ?_⟩
  obtain ⟨m, less, aligned⟩ := script.aligned
  refine le_trans ?_ less
  cases aligned with
  | keep _ aligned => exact h.2 aligned.edits
  | replace _ _ aligned => exact (h.2 aligned.edits).trans (Nat.le_succ _)
  -- a character that stands alone in one word is taken off the other by an edit more
  | insert _ aligned => exact h.2 (aligned.edits.after (.insert c a))
  | delete _ aligned => exact h.2 (.next aligned.edits (.delete c b))

/-- Two words that begin differently, by the first characters of one, of the other and of both. -/
theorem isDistance_differ {left above : Nat} (differ : c ≠ d) (hd : IsDistance n a b)
    (hl : IsDistance left (c :: a) b) (ha : IsDistance above a (d :: b)) :
    IsDistance (1 + min n (min left above)) (c :: a) (d :: b) := by
  refine ⟨?_, fun k script => ?_⟩
  · have replaced : Edits (n + 1) (c :: a) (d :: b) := .next (hd.1.behind c) (.replace c d b)
    have inserted : Edits (left + 1) (c :: a) (d :: b) := .next hl.1 (.insert d b)
    have deleted : Edits (above + 1) (c :: a) (d :: b) := ha.1.after (.delete c a)
    rw [Nat.add_comm]
    rcases min_choice n (min left above) with h | h <;> rw [h]
    · exact replaced
    · rcases min_choice left above with h | h <;> rw [h]
      · exact inserted
      · exact deleted
  · obtain ⟨m, less, aligned⟩ := script.aligned
    refine le_trans ?_ less
    cases aligned with
    | keep => exact absurd rfl differ
    | replace _ _ aligned =>
      have := hd.2 aligned.edits
      omega
    | insert _ aligned =>
      have := hl.2 aligned.edits
      omega
    | delete _ aligned =>
      have := ha.2 aligned.edits
      omega

theorem isDistance_cell {left above : Nat} (hd : IsDistance n a b)
    (hl : IsDistance left (a ++ [c]) b) (ha : IsDistance above a (b ++ [d])) :
    IsDistance (if c == d then n else 1 + min n (min left above)) (a ++ [c]) (b ++ [d]) := by
  rw [← isDistance_reverse] at hd hl ha ⊢
  rw [List.reverse_append] at hl ha ⊢
  rw [List.reverse_append]
  by_cases same : c = d
  · subst same
    simpa using isDistance_keep hd c
  · rw [if_neg (by simpa using same)]
    exact isDistance_differ same hd hl ha

/-! ## The table -/

/-- The cells of a row from one place on: the distances of a word to a prefix and to its extensions
by the characters of a rest. -/
inductive IsRow (word : List Char) : List Char → List Char → List Nat → Prop
  | last {reached : List Char} {n : Nat} : IsDistance n word reached → IsRow word reached [] [n]
  | next {reached rest : List Char} {d : Char} {n : Nat} {row : List Nat} :
    IsDistance n word reached → IsRow word (reached ++ [d]) rest row →
    IsRow word reached (d :: rest) (n :: row)

variable {word reached rest : List Char} {row : List Nat} {first left : Nat}

theorem IsRow.head (h : IsRow word reached rest (first :: row)) :
    IsDistance first word reached := by
  cases h <;> assumption

theorem IsRow.exists_cons (h : IsRow word reached rest row) :
    ∃ first more, row = first :: more := by
  cases h <;> exact ⟨_, _, rfl⟩

theorem IsRow.getLastD (h : IsRow word reached rest row) :
    IsDistance (row.getLastD 0) word (reached ++ rest) := by
  induction h with
  | last h => simpa using h
  | next _ behind ih =>
    obtain ⟨first, more, rfl⟩ := behind.exists_cons
    simpa using ih

theorem isRow_first (reached rest : List Char) :
    IsRow [] reached rest (List.range' reached.length (rest.length + 1)) := by
  induction rest generalizing reached with
  | nil => exact .last (isDistance_nil_left reached)
  | cons d rest ih =>
    rw [List.range'_succ]
    exact .next (isDistance_nil_left reached) (by simpa using ih (reached ++ [d]))

theorem IsRow.filled (h : IsRow word reached rest row)
    (hl : IsDistance left (word ++ [c]) reached) :
    IsRow (word ++ [c]) reached rest (left :: distanceRowFrom c left rest row) := by
  induction h generalizing left with
  | last => exact .last hl
  | @next reached rest d n row hd behind ih =>
    obtain ⟨above, more, rfl⟩ := behind.exists_cons
    exact .next hl (ih (isDistance_cell hd hl behind.head))

theorem IsRow.distanceRow (h : IsRow word [] rest row) (c : Char) :
    IsRow (word ++ [c]) [] rest (distanceRow rest row c) := by
  obtain ⟨first, more, rfl⟩ := h.exists_cons
  have longer : first + 1 = (word ++ [c]).length := by
    rw [h.head.unique (isDistance_nil_right word), List.length_append, List.length_singleton]
  refine h.filled ?_
  rw [List.headD_cons, longer]
  exact isDistance_nil_right _

theorem IsRow.foldl (h : IsRow word [] rest row) (more : List Char) :
    IsRow (word ++ more) [] rest (more.foldl (Stylesheet.distanceRow rest) row) := by
  induction more generalizing word row with
  | nil => simpa using h
  | cons c more ih => simpa using ih (h.distanceRow c)

/-- The distance of two words is the length of a sequence of edits from one to the other, and none
is shorter. -/
theorem isLeast_distance (a b : List Char) : IsLeast {n | Edits n a b} (distance a b) := by
  have started : IsRow [] [] b (firstDistanceRow b) := by
    rw [firstDistanceRow, List.range_eq_range']
    exact isRow_first [] b
  exact (started.foldl a).getLastD

example : distance "kitten".toList "sitting".toList = 3 := by decide

end Handoff.Stylesheet
