import Handoff.Proofs.Text.Scan

/-! # Counts in lines below each other

A scan counts from the left and without overlap, so what it takes in one place can hide what starts
a bit behind. It hides no more than one thing if the ends of what is taken come in the order of the
starts: then a text has at least as many occurrences as any part at its end, and two texts below
each other have at least as many as both together.
-/

namespace Handoff.Text

variable {text left x y a b : List Char}

namespace Recogniser

variable {r s : Recogniser}

/-- What is left is the end of the text, and where something starts behind another thing, it also
ends there or behind. -/
structure IsSteady (r : Recogniser) : Prop where
  suffix : ∀ {text left}, r text = some left → left <:+ text
  ordered : ∀ {text text' left left'}, text' <:+ text → r text = some left → r text' = some left' →
    left' <:+ left

/-- What is taken off the front of a text is taken off it as well if another line follows. -/
def IsFirm (r : Recogniser) : Prop :=
  ∀ text left more, r text = some left → r (text ++ '\n' :: more) = some (left ++ '\n' :: more)

/-- The occurrences of such a recogniser in a text are found again where another line follows. -/
structure IsCounted (r : Recogniser) : Prop extends r.IsSteady where
  takes : ∀ text, r text ≠ some text
  firm : r.IsFirm

theorem isSteady_some : IsSteady some where
  suffix := by
    rintro text _ ⟨⟩
    exact List.suffix_rfl
  ordered := by
    rintro text text' _ _ behind ⟨⟩ ⟨⟩
    exact behind

theorem andThen_eq_some : andThen r s text = some left ↔ ∃ middle, r text = some middle ∧
    s middle = some left :=
  Option.bind_eq_some_iff

theorem IsSteady.andThen (first : r.IsSteady) (second : s.IsSteady) : (andThen r s).IsSteady where
  suffix h := by
    obtain ⟨middle, taken, rest⟩ := andThen_eq_some.mp h
    exact (second.suffix rest).trans (first.suffix taken)
  ordered behind h h' := by
    obtain ⟨middle, taken, rest⟩ := andThen_eq_some.mp h
    obtain ⟨middle', taken', rest'⟩ := andThen_eq_some.mp h'
    exact second.ordered (first.ordered behind taken taken') rest rest'

/-- What takes always the same number of characters is steady. -/
theorem isSteady_of_length {n : Nat} (suffix : ∀ {text left}, r text = some left → left <:+ text)
    (length : ∀ {text left}, r text = some left → text.length = left.length + n) : r.IsSteady where
  suffix := suffix
  ordered := by
    intro text text' left left' behind h h'
    apply List.suffix_of_suffix_length_le ((suffix h').trans behind) (suffix h)
    have shorter := behind.length_le
    have := length h
    have := length h'
    omega

theorem word_eq_some {piece : String} : word piece text = some left ↔
    text = piece.toList ++ left := by
  unfold word exactly
  constructor
  · intro h
    split at h
    · rename_i start
      obtain ⟨rest, rfl⟩ := List.isPrefixOf_iff_prefix.mp start
      simpa using h
    · cases h
  · rintro rfl
    simp

theorem mark_eq_some {c : Char} : mark c text = some left ↔ text = c :: left := by
  cases text with
  | nil => simp [mark, one]
  | cons d rest => simp [mark, one]

theorem isSteady_word (piece : String) : (word piece).IsSteady := by
  apply isSteady_of_length (n := piece.toList.length)
  · intro text left h
    exact ⟨_, (word_eq_some.mp h).symm⟩
  · intro text left h
    rw [word_eq_some.mp h, List.length_append, Nat.add_comm]

theorem isSteady_mark (c : Char) : (mark c).IsSteady := by
  apply isSteady_of_length (n := 1)
  · intro text left h
    exact ⟨[c], (mark_eq_some.mp h).symm⟩
  · intro text left h
    rw [mark_eq_some.mp h, List.length_cons]

theorem isSteady_many (p : Char → Bool) : (many p).IsSteady where
  suffix := by
    rintro text _ ⟨⟩
    exact List.dropWhile_suffix p
  ordered := by
    rintro _ text' _ _ ⟨front, rfl⟩ ⟨⟩ ⟨⟩
    rw [List.dropWhile_append]
    split
    · exact List.suffix_rfl
    · exact (List.dropWhile_suffix p).trans (List.suffix_append _ _)

theorem isFirm_some : IsFirm some := by
  rintro text _ more ⟨⟩
  rfl

theorem IsFirm.andThen (first : r.IsFirm) (second : s.IsFirm) : (andThen r s).IsFirm := by
  intro text left more h
  obtain ⟨middle, taken, rest⟩ := andThen_eq_some.mp h
  exact andThen_eq_some.mpr ⟨_, first text middle more taken, second middle left more rest⟩

theorem isFirm_word (piece : String) : (word piece).IsFirm := by
  intro text left more h
  rw [word_eq_some] at h ⊢
  rw [h, List.append_assoc]

theorem isFirm_mark (c : Char) : (mark c).IsFirm := by
  intro text left more h
  rw [mark_eq_some] at h ⊢
  rw [h, List.cons_append]

/-- Spaces may go on in the next line, but not if something that is taken stands between. -/
theorem IsFirm.spaces_andThen (h : r.IsFirm) (filled : r [] = none) :
    (spaces.andThen r).IsFirm := by
  intro text left more taken
  have rest : r (text.dropWhile isSpace) = some left := taken
  have some : (text.dropWhile isSpace).isEmpty = false := by
    cases he : text.dropWhile isSpace with
    | nil =>
      rw [he, filled] at rest
      cases rest
    | cons c tail => rfl
  apply andThen_eq_some.mpr
  refine ⟨text.dropWhile isSpace ++ '\n' :: more, ?_, h _ left more rest⟩
  rw [spaces, many, List.dropWhile_append, some]
  rfl

theorem isCounted_word_andThen {piece : String} (filled : piece.toList ≠ []) (steady : s.IsSteady)
    (firm : s.IsFirm) :
    (andThen (word piece) s).IsCounted where
  toIsSteady := (isSteady_word piece).andThen steady
  takes text h := by
    obtain ⟨middle, taken, rest⟩ := andThen_eq_some.mp h
    have shorter := (steady.suffix rest).length_le
    have some := List.length_pos_iff.mpr filled
    rw [word_eq_some.mp taken, List.length_append] at shorter
    omega
  firm := (isFirm_word piece).andThen firm

theorem isCounted_word {piece : String} (filled : piece.toList ≠ []) : (word piece).IsCounted := by
  have alone : word piece = andThen (word piece) some := by
    funext text
    simp [andThen]
  rw [alone]
  exact isCounted_word_andThen filled isSteady_some isFirm_some

end Recogniser

/-! ## Counting -/

variable {r : Recogniser}

theorem countOf_of_eq_none {c : Char} {rest : List Char} (h : r (c :: rest) = none) :
    countOf r (c :: rest) = countOf r rest := by
  rw [countOf, occurrences_cons h, countOf]

theorem Recogniser.IsCounted.countOf_of_eq_some (counted : r.IsCounted) (h : r text = some left) :
    countOf r text = countOf r left + 1 := by
  obtain ⟨taken, rfl⟩ := counted.suffix h
  have some : taken ≠ [] := by
    rintro rfl
    exact counted.takes _ h
  rw [countOf, occurrences_append some h, List.length_cons, countOf]

theorem Recogniser.IsCounted.length_lt (counted : r.IsCounted) (h : r text = some left) :
    left.length < text.length := by
  apply Nat.lt_of_le_of_ne (counted.suffix h).length_le
  intro same
  apply counted.takes text
  rw [h, (counted.suffix h).eq_of_length same]

/-- The end of a text has no more occurrences than the text. -/
theorem Recogniser.IsCounted.countOf_le (counted : r.IsCounted) (behind : y <:+ x) :
    countOf r y ≤ countOf r x := by
  induction size : x.length using Nat.strongRecOn generalizing x y with
  | _ size ih =>
    cases x with
    | nil => rw [List.suffix_nil.mp behind]
    | cons c rest =>
      cases h : r (c :: rest) with
      | none =>
        rw [countOf_of_eq_none h]
        rcases List.suffix_cons_iff.mp behind with rfl | behind
        · rw [countOf_of_eq_none h]
        · exact ih rest.length (by simp [← size]) behind rfl
      | some left =>
        -- what the end begins with ends behind the first occurrence in the text
        have shorter := counted.length_lt h
        rw [counted.countOf_of_eq_some h]
        induction y with
        | nil => exact Nat.zero_le _
        | cons d y ihy =>
          cases h' : r (d :: y) with
          | none =>
            rw [countOf_of_eq_none h']
            exact ihy ((List.suffix_cons d y).trans behind)
          | some left' =>
            rw [counted.countOf_of_eq_some h']
            apply Nat.succ_le_succ
            exact ih left.length (size ▸ shorter) (counted.ordered behind h h') rfl

/-- Two texts below each other have all occurrences of both. -/
theorem Recogniser.IsCounted.countOf_add_le (counted : r.IsCounted) (a b : List Char) :
    countOf r a + countOf r b ≤ countOf r (a ++ '\n' :: b) := by
  induction size : a.length using Nat.strongRecOn generalizing a with
  | _ size ih =>
    cases a with
    | nil =>
      have none : countOf r [] = 0 := rfl
      rw [none, Nat.zero_add]
      exact counted.countOf_le (List.suffix_cons '\n' b)
    | cons c rest =>
      cases h : r (c :: rest) with
      | none =>
        have fewer := ih rest.length (by simp [← size]) rest rfl
        have behind := counted.countOf_le (List.suffix_cons c (rest ++ '\n' :: b))
        rw [countOf_of_eq_none h, List.cons_append]
        omega
      | some left =>
        have fewer := ih left.length (size ▸ counted.length_lt h) left rfl
        rw [counted.countOf_of_eq_some h, counted.countOf_of_eq_some (counted.firm _ left b h)]
        omega

theorem countAll_add_le {patterns : List Recogniser} (counted : ∀ r ∈ patterns, r.IsCounted)
    (a b : List Char) :
    countAll patterns a + countAll patterns b ≤ countAll patterns (a ++ '\n' :: b) := by
  induction patterns with
  | nil => exact Nat.le_refl 0
  | cons r patterns ih =>
    obtain ⟨first, others⟩ := List.forall_mem_cons.mp counted
    have single := first.countOf_add_le a b
    have more := ih others
    simp only [countAll, List.map_cons, List.foldr_cons] at more ⊢
    omega

end Handoff.Text
