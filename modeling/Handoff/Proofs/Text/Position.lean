import Handoff.Text.Lines
import Mathlib.Data.List.Basic
import Mathlib.Data.List.GetD

/-! # Positions

The position at an offset counts the newlines before it, and the characters behind the last of them.
So positions are in the order of their offsets. A table of the offsets at which lines start gives
the same positions: of an increasing table, a search by halves finds the last line that starts at an
offset or before it.
-/

namespace Handoff.Text

variable {text front tail : List Char} {starts : List ℕ} {start offset low high i j : ℕ} {c : Char}

/-! ## The order of positions -/

namespace Position

variable {p q r : Position}

/-- The order of a text: by lines, and by columns within a line. -/
def Before (p q : Position) : Prop := p.line < q.line ∨ p.line = q.line ∧ p.column < q.column

theorem Before.trans (h : p.Before q) (h' : q.Before r) : p.Before r := by
  unfold Before at *
  omega

theorem Before.asymm (h : p.Before q) : ¬ q.Before p := by
  unfold Before at *
  omega

theorem Before.ne (h : p.Before q) : p ≠ q := by
  rintro rfl
  exact h.asymm h

theorem before_advance (p : Position) (c : Char) : p.Before (p.advance c) := by
  unfold advance Before
  split
  · exact .inl (Nat.lt_succ_self _)
  · exact .inr ⟨rfl, Nat.lt_succ_self _⟩

theorem before_of_advance (h : p.advance c = q ∨ (p.advance c).Before q) : p.Before q := by
  rcases h with rfl | before
  · exact p.before_advance c
  · exact (p.before_advance c).trans before

theorem before_after (p : Position) (full : text ≠ []) : p.Before (p.after text) := by
  induction text generalizing p with
  | nil => exact absurd rfl full
  | cons c text ih =>
    apply before_of_advance (c := c)
    cases text with
    | nil => exact .inl rfl
    | cons d text => exact .inr (ih (p.advance c) (List.cons_ne_nil d text))

theorem line_after (p : Position) (text : List Char) :
    (p.after text).line = p.line + text.count '\n' := by
  induction text generalizing p with
  | nil => rfl
  | cons c text ih =>
    change ((p.advance c).after text).line = _
    rw [ih, List.count_cons, advance]
    split <;> dsimp only <;> omega

theorem column_after (p : Position) (unbroken : '\n' ∉ tail) :
    (p.after tail).column = p.column + tail.length := by
  induction tail generalizing p with
  | nil => rfl
  | cons c tail ih =>
    obtain ⟨first, others⟩ := not_or.mp (List.mem_cons.not.mp unbroken)
    change ((p.advance c).after tail).column = _
    rw [ih _ others, advance, if_neg (by simpa using Ne.symm first), List.length_cons]
    dsimp only
    omega

end Position

open Position

/-! ## Positions of offsets -/

def positionAt (text : List Char) (offset : ℕ) : Position := Position.start.after (text.take offset)

theorem take_eq_append (le : i ≤ j) (text : List Char) :
    text.take j = text.take i ++ (text.take j).drop i := by
  conv_lhs => rw [← List.take_append_drop i (text.take j), List.take_take, Nat.min_eq_left le]

theorem positionAt_before (less : i < j) (inside : j ≤ text.length) :
    (positionAt text i).Before (positionAt text j) := by
  rw [positionAt, positionAt, take_eq_append (Nat.le_of_lt less), after_append]
  apply before_after
  intro empty
  rw [List.drop_eq_nil_iff, List.length_take] at empty
  omega

theorem positionAt_before_iff (hi : i ≤ text.length) (hj : j ≤ text.length) :
    (positionAt text i).Before (positionAt text j) ↔ i < j := by
  constructor
  · intro before
    rcases Nat.lt_trichotomy i j with less | rfl | more
    · exact less
    · exact absurd before before.asymm
    · exact absurd (positionAt_before more hi) before.asymm
  · intro less
    exact positionAt_before less hj

theorem positionAt_inj (hi : i ≤ text.length) (hj : j ≤ text.length)
    (same : positionAt text i = positionAt text j) :
    i = j := by
  rcases Nat.lt_trichotomy i j with less | equal | more
  · exact absurd same (positionAt_before less hj).ne
  · exact equal
  · exact absurd same.symm (positionAt_before more hi).ne

/-- A piece is read at a spot of a text that stands at a position. -/
inductive ReadsAt (piece : List Char) (spot : Position) : Position → List Char → Prop
  | here {text : List Char} : piece <+: text → ReadsAt piece spot spot text
  | later {place : Position} {c : Char} {rest : List Char} :
    ReadsAt piece spot (place.advance c) rest → ReadsAt piece spot place (c :: rest)

namespace ReadsAt

variable {piece : List Char} {spot place : Position}

theorem eq_or_before (h : ReadsAt piece spot place text) : place = spot ∨ place.Before spot := by
  induction h with
  | here => exact .inl rfl
  | later _ ih => exact .inr (before_of_advance ih)

theorem before (h : ReadsAt piece spot (place.advance c) tail) : place.Before spot :=
  before_of_advance h.eq_or_before

theorem exists_offset (h : ReadsAt piece spot place text) :
    ∃ offset, spot = place.after (text.take offset) ∧ piece <+: text.drop offset := by
  induction h with
  | here front => exact ⟨0, rfl, front⟩
  | later _ ih =>
    obtain ⟨offset, at_, front⟩ := ih
    exact ⟨offset + 1, at_, front⟩

end ReadsAt

/-- The line of an offset starts at another one: at the front of the text or behind a newline, and
no newline stands between the two. -/
structure StartsLine (text : List Char) (start offset : ℕ) : Prop where
  le : start ≤ offset
  first : start = 0 ∨ text[start - 1]? = some '\n'
  unbroken : ∀ i, start ≤ i → i < offset → text[i]? ≠ some '\n'

theorem StartsLine.column_eq_one (h : StartsLine text start offset) :
    (positionAt text start).column = 1 := by
  rcases Nat.eq_zero_or_pos start with rfl | pos
  · rfl
  · have newline := h.first.resolve_left (Nat.ne_of_gt pos)
    obtain ⟨inside, hc⟩ := List.getElem?_eq_some_iff.mp newline
    have split : text.take start = text.take (start - 1) ++ ['\n'] := by
      rw [← hc, List.take_append_getElem inside]
      congr 1
      omega
    rw [positionAt, split, after_append]
    rfl

theorem StartsLine.positionAt_eq (h : StartsLine text start offset)
    (inside : offset ≤ text.length) :
    positionAt text offset = ⟨1 + (text.take offset).count '\n', offset - start + 1⟩ := by
  have tail : '\n' ∉ (text.take offset).drop start := by
    intro hm
    obtain ⟨i, hi, hc⟩ := List.getElem_of_mem hm
    rw [List.length_drop, List.length_take] at hi
    apply h.unbroken (start + i) (by omega) (by omega)
    rw [List.getElem_drop, List.getElem_take] at hc
    rw [← hc]
    exact List.getElem?_eq_getElem _
  have column : (positionAt text offset).column = offset - start + 1 := by
    rw [positionAt, take_eq_append h.le, after_append, column_after _ tail, List.length_drop,
      List.length_take, ← positionAt, h.column_eq_one]
    omega
  have line : (positionAt text offset).line = 1 + (text.take offset).count '\n' := line_after _ _
  rw [← line, ← column]

/-! ## The table of lines -/

theorem mem_newlineEnds_iff : start ∈ newlineEnds offset text ↔ ∃ i, text[i]? = some '\n' ∧
    start = offset + i + 1 := by
  induction text generalizing offset with
  | nil => simp [newlineEnds]
  | cons c rest ih =>
    have behind : (∃ i, (c :: rest)[i]? = some '\n' ∧ start = offset + i + 1) ↔
        (c = '\n' ∧ start = offset + 1) ∨ ∃ i, rest[i]? = some '\n' ∧
        start = offset + 1 + i + 1 := by
      constructor
      · rintro ⟨i, hc, rfl⟩
        cases i with
        | zero => exact .inl ⟨by simpa using hc, rfl⟩
        | succ i => exact .inr ⟨i, by simpa using hc, by omega⟩
      · rintro (⟨rfl, rfl⟩ | ⟨i, hc, rfl⟩)
        · exact ⟨0, rfl, rfl⟩
        · exact ⟨i + 1, by simpa using hc, by omega⟩
    rw [behind, ← ih, newlineEnds]
    split
    · rename_i newline
      simp [newline]
    · rename_i other
      simp [other]

theorem pairwise_newlineEnds (offset : ℕ) (text : List Char) : (newlineEnds offset text).Pairwise
    (· < ·) := by
  induction text generalizing offset with
  | nil => exact .nil
  | cons c rest ih =>
    unfold newlineEnds
    split
    · refine .cons ?_ (ih (offset + 1))
      intro later hl
      obtain ⟨i, -, rfl⟩ := mem_newlineEnds_iff.mp hl
      omega
    · exact ih (offset + 1)

theorem mem_lineStarts_iff : start ∈ lineStarts text ↔ start = 0 ∨ ∃ i, text[i]? = some '\n' ∧
    start = i + 1 := by
  rw [lineStarts, List.mem_cons, mem_newlineEnds_iff]
  simp only [Nat.zero_add]

theorem pairwise_lineStarts (text : List Char) : (lineStarts text).Pairwise (· < ·) := by
  refine .cons ?_ (pairwise_newlineEnds 0 text)
  intro later hl
  obtain ⟨i, -, rfl⟩ := mem_newlineEnds_iff.mp hl
  omega

theorem countP_newlineEnds (offset limit : ℕ) (text : List Char) :
    (newlineEnds offset text).countP (· ≤ limit) = (text.take (limit - offset)).count '\n' := by
  induction text generalizing offset with
  | nil => simp [newlineEnds]
  | cons c rest ih =>
    have shift : limit - (offset + 1) = limit - offset - 1 := by omega
    rcases Nat.lt_or_ge offset limit with less | far
    · obtain ⟨k, hk⟩ : ∃ k, limit - offset = k + 1 := ⟨limit - offset - 1, by omega⟩
      rw [hk, Nat.add_sub_cancel] at shift
      rw [hk, List.take_succ_cons, List.count_cons, newlineEnds, ← shift, ← ih]
      split
      · rename_i newline
        rw [List.countP_cons]
        simpa [newline] using Nat.succ_le_of_lt less
      · rename_i other
        simp [other]
    · have front : limit - offset = 0 := by omega
      rw [front, List.take_zero, List.count_nil, List.countP_eq_zero]
      intro start hs
      obtain ⟨i, -, rfl⟩ := mem_newlineEnds_iff.mp hs
      simp
      omega

/-! ## The search -/

/-- The values before the lower index are at most the bound, and those from the upper index on are
above it. -/
structure Encloses (starts : List ℕ) (bound low high : ℕ) : Prop where
  ordered : low ≤ high
  inside : high ≤ starts.length
  below : ∀ i (h : i < starts.length), i < low → starts[i] ≤ bound
  above : ∀ i (h : i < starts.length), high ≤ i → bound < starts[i]

theorem getElem_le_getElem (increasing : starts.Pairwise (· < ·)) (hj : j < starts.length)
    (le : i ≤ j) :
    starts[i] ≤ starts[j] := by
  rcases Nat.lt_or_eq_of_le le with less | rfl
  · exact Nat.le_of_lt (List.pairwise_iff_getElem.mp increasing i j (by omega) hj less)
  · exact Nat.le_refl _

/-- Each half keeps the values on their sides, so that the indices meet where the bound stands. -/
theorem encloses_bisect (increasing : starts.Pairwise (· < ·)) {bound : ℕ}
    (h : Encloses starts bound low high) :
    Encloses starts bound (bisect starts bound low high) (bisect starts bound low high) := by
  fun_induction bisect starts bound low high with
  | case1 low high wide middle beyond ih =>
    have middle_lt : middle < starts.length := by
      have := h.inside
      omega
    rw [List.getD_eq_getElem _ _ middle_lt] at beyond
    refine ih ⟨by omega, by omega, h.below, ?_⟩
    intro i hi le
    exact Nat.lt_of_lt_of_le beyond (getElem_le_getElem increasing hi le)
  | case2 low high wide middle reached ih =>
    have middle_lt : middle < starts.length := by
      have := h.inside
      omega
    rw [List.getD_eq_getElem _ _ middle_lt] at reached
    refine ih ⟨by omega, h.inside, ?_, h.above⟩
    intro i hi less
    exact Nat.le_trans (getElem_le_getElem increasing middle_lt (by omega)) (Nat.not_lt.mp reached)
  | case3 low high narrow =>
    obtain rfl : low = high := Nat.le_antisymm h.ordered (Nat.not_lt.mp narrow)
    exact h

theorem Encloses.eq_countP {bound index : ℕ} (h : Encloses starts bound index index) :
    index = starts.countP (· ≤ bound) := by
  have below : (starts.take index).countP (· ≤ bound) = index := by
    rw [List.countP_eq_length.mpr, List.length_take, Nat.min_eq_left h.inside]
    intro value hv
    obtain ⟨i, hi, rfl⟩ := List.getElem_of_mem hv
    rw [List.length_take] at hi
    rw [List.getElem_take]
    exact decide_eq_true (h.below i (by omega) (by omega))
  have above : (starts.drop index).countP (· ≤ bound) = 0 := by
    rw [List.countP_eq_zero]
    intro value hv
    obtain ⟨i, hi, rfl⟩ := List.getElem_of_mem hv
    rw [List.length_drop] at hi
    rw [List.getElem_drop, decide_eq_true_eq, Nat.not_le]
    exact h.above (index + i) (by omega) (by omega)
  conv_rhs => rw [← List.take_append_drop index starts, List.countP_append, below, above]
  rfl

theorem exists_locate (text : List Char) (offset : ℕ) : ∃ start, StartsLine text start offset ∧
    locate text offset = ⟨1 + (text.take offset).count '\n', offset - start + 1⟩ := by
  have increasing := pairwise_lineStarts text
  have found : Encloses (lineStarts text) offset _ _ :=
    encloses_bisect increasing ⟨Nat.zero_le _, Nat.le_refl _, by omega, by omega⟩
  have count := found.eq_countP
  rw [locate]
  generalize bisect (lineStarts text) offset 0 (lineStarts text).length = index at found count
  have lines : index = 1 + (text.take offset).count '\n' := by
    rw [count, lineStarts, List.countP_cons, countP_newlineEnds, Nat.sub_zero, if_pos (by simp),
      Nat.add_comm]
  have last : index - 1 < (lineStarts text).length := by
    have := found.inside
    omega
  refine ⟨(lineStarts text)[index - 1], ⟨found.below _ last (by omega), ?_, ?_⟩, ?_⟩
  · rcases mem_lineStarts_iff.mp (List.getElem_mem last) with front | ⟨i, newline, behind⟩
    · exact .inl front
    · right
      rw [behind]
      exact newline
  · -- a newline behind the start would start a later line
    intro i from_ upTo newline
    obtain ⟨k, hk, later⟩ := List.getElem_of_mem (mem_lineStarts_iff.mpr (.inr ⟨i, newline, rfl⟩))
    have counted : k < index := by
      by_contra beyond
      have := found.above k hk (Nat.not_lt.mp beyond)
      omega
    have early : (lineStarts text)[k] ≤ (lineStarts text)[index - 1] :=
      getElem_le_getElem increasing last (Nat.le_sub_one_of_lt counted)
    omega
  · rw [List.getD_eq_getElem _ _ last]
    congr 1
    omega

theorem locate_eq_positionAt (inside : offset ≤ text.length) :
    locate text offset = positionAt text offset := by
  obtain ⟨start, line, found⟩ := exists_locate text offset
  rw [found, line.positionAt_eq inside]

example : locate "a\nbc".toList 1 = ⟨1, 2⟩ ∧ locate "a\nbc".toList 2 = ⟨2, 1⟩ ∧
    locate "a\nbc".toList 4 = ⟨2, 3⟩ := by cbv

end Handoff.Text
