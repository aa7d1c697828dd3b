import Handoff.Metrics.Score
import Handoff.Proofs.Text.Count

/-! # Branches of code that is put together

A case goes up to the last colon of the line that it begins in, which may be the line below the
word. It may take what was a case of its own in the code below, but no more than that one. So code
in lines below other code never has fewer branches than both parts together.
-/

namespace Handoff.Metrics

open Text Recogniser

variable {text left : List Char} {c : Char}

/-! ## Cases -/

theorem throughLast_eq_none_iff : throughLast [c] text = none ↔ c ∉ text := by
  induction text with
  | nil => simp [throughLast]
  | cons d rest ih =>
    rw [throughLast, List.mem_cons, not_or, ← ih]
    cases throughLast [c] rest <;> simp [exactly, List.isPrefixOf]

theorem throughLast_append (free : c ∉ left) (front : List Char) :
    throughLast [c] (front ++ c :: left) = some left := by
  induction front with
  | nil =>
    rw [List.nil_append, throughLast, throughLast_eq_none_iff.mpr free]
    simp [exactly]
  | cons d front ih =>
    rw [List.cons_append, throughLast, ih]
    rfl

theorem exists_of_throughLast (h : throughLast [c] text = some left) :
    ∃ front, text = front ++ c :: left ∧ c ∉ left := by
  induction text with
  | nil => cases h
  | cons d rest ih =>
    rw [throughLast] at h
    cases found : throughLast [c] rest with
    | some behind =>
      rw [found] at h
      obtain rfl : behind = left := by simpa using h
      obtain ⟨front, rfl, free⟩ := ih found
      exact ⟨d :: front, rfl, free⟩
    | none =>
      rw [found] at h
      obtain ⟨rfl, rfl⟩ : c = d ∧ rest = left := by simpa [exactly, List.isPrefixOf] using h
      exact ⟨[], rfl, throughLast_eq_none_iff.mp found⟩

theorem throughColon_eq_some_iff : throughColon text = some left ↔
    ∃ front back, lineRest text = front ++ ':' :: back ∧ ':' ∉ back ∧
    left = back ++ afterLine text := by
  rw [throughColon, Option.map_eq_some_iff]
  constructor
  · rintro ⟨back, found, rfl⟩
    obtain ⟨front, line, free⟩ := exists_of_throughLast found
    exact ⟨front, back, line, free, rfl⟩
  · rintro ⟨front, back, line, free, rfl⟩
    exact ⟨back, line ▸ throughLast_append free front, rfl⟩

theorem lineRest_append_afterLine (text : List Char) : lineRest text ++ afterLine text = text :=
  List.takeWhile_append_dropWhile

theorem lineRest_append (text more : List Char) :
    lineRest (text ++ '\n' :: more) = lineRest text := by
  induction text with
  | nil => rfl
  | cons d text ih =>
    rw [lineRest, lineRest, List.cons_append, List.takeWhile_cons, List.takeWhile_cons]
    split
    · exact congrArg (d :: ·) ih
    · rfl

theorem afterLine_append (text more : List Char) :
    afterLine (text ++ '\n' :: more) = afterLine text ++ '\n' :: more := by
  induction text with
  | nil => rfl
  | cons d text ih =>
    rw [afterLine, afterLine, List.cons_append, List.dropWhile_cons, List.dropWhile_cons]
    split
    · exact ih
    · rfl

theorem isFirm_throughColon : throughColon.IsFirm := by
  intro text left more h
  obtain ⟨front, back, line, free, rfl⟩ := throughColon_eq_some_iff.mp h
  apply throughColon_eq_some_iff.mpr
  refine ⟨front, back, ?_, free, ?_⟩
  · rw [lineRest_append, line]
  · rw [afterLine_append, List.append_assoc]

theorem suffix_of_throughColon (h : throughColon text = some left) : left <:+ text := by
  obtain ⟨front, back, line, -, rfl⟩ := throughColon_eq_some_iff.mp h
  refine ⟨front ++ [':'], ?_⟩
  calc front ++ [':'] ++ (back ++ afterLine text)
      = lineRest text ++ afterLine text := by rw [line]; simp
    _ = text := lineRest_append_afterLine text

theorem isSteady_throughColon : throughColon.IsSteady where
  suffix := suffix_of_throughColon
  ordered := by
    rintro _ text _ left' ⟨before, rfl⟩ h h'
    obtain ⟨front, back, line, free, rfl⟩ := throughColon_eq_some_iff.mp h
    by_cases below : '\n' ∈ before
    · -- what starts in a later line ends there, behind all of this line
      obtain ⟨own, others, rfl, -⟩ := List.eq_append_cons_of_mem below
      rw [List.append_assoc, List.cons_append, afterLine_append]
      apply (suffix_of_throughColon h').trans
      exact ⟨back ++ afterLine own ++ '\n' :: others, by simp⟩
    · -- in one line both end at the last colon
      obtain ⟨front', back', line', free', rfl⟩ := throughColon_eq_some_iff.mp h'
      have inside : ∀ c ∈ before, (c != '\n') = true := fun c hc => by
        simpa using ne_of_mem_of_not_mem hc below
      have whole : lineRest (before ++ text) = (before ++ front') ++ ':' :: back' := by
        rw [lineRest, List.takeWhile_append_of_pos inside, ← lineRest, line', List.append_assoc]
      have after : afterLine (before ++ text) = afterLine text :=
        List.dropWhile_append_of_pos inside
      have same : some back' = some back := by
        rw [← throughLast_append free' (before ++ front'), ← whole, line, throughLast_append free]
      cases same
      exact after ▸ List.suffix_rfl

/-! ## Branches -/

theorem isCounted_spaced {word : String} {part : Recogniser} (filled : word.toList ≠ [])
    (steady : part.IsSteady) (firm : part.IsFirm) (some : part [] = none) :
    (sequence [.word word, .spaces, part]).IsCounted := by
  have ended : (sequence [part]).IsFirm := firm.andThen isFirm_some
  have refuses : sequence [part] [] = none := by
    change (part []).bind _ = none
    rw [some]
    rfl
  apply isCounted_word_andThen filled
  · exact (isSteady_many isSpace).andThen (steady.andThen isSteady_some)
  · exact ended.spaces_andThen refuses

theorem isCounted_call {word : String} (filled : word.toList ≠ []) : (call word).IsCounted :=
  isCounted_spaced filled (isSteady_mark '(') (isFirm_mark '(') rfl

theorem isCounted_branches : ∀ r ∈ branches, r.IsCounted := by
  have condition : (call "if").IsCounted := isCounted_call (by decide)
  have alternative : (sequence [.word "else", .spaces, call "if"]).IsCounted :=
    isCounted_spaced (by decide) condition.toIsSteady condition.firm rfl
  have choice : (sequence [.word "case", .spaces, throughColon]).IsCounted :=
    isCounted_spaced (by decide) isSteady_throughColon isFirm_throughColon rfl
  simp only [branches, List.forall_mem_cons]
  refine ⟨condition, alternative, ?_, ?_, ?_, choice, ?_, ?_, ?_, ?_, List.forall_mem_nil _⟩
  · exact isCounted_call (by decide)
  · exact isCounted_call (by decide)
  · exact isCounted_call (by decide)
  · exact isCounted_call (by decide)
  · exact isCounted_word (by decide)
  · exact isCounted_word (by decide)
  · exact isCounted_word (by decide)

/-! ## Complexity -/

/-- Code below other code is no less complex than both are together, as far as complexity is
counted. -/
theorem complexity_below (a b : List Char) :
    min 100 (complexity a + complexity b - 1) ≤ complexity (a ++ '\n' :: b) ∧
      complexity a ≤ complexity (a ++ '\n' :: b) ∧ complexity b ≤ complexity (a ++ '\n' :: b) := by
  have together := countAll_add_le isCounted_branches a b
  simp only [complexity, complexityLimit]
  omega

-- the case that begins above takes the one below it
example : complexity "case".toList + complexity "x: case y:".toList - 1 =
    complexity ("case".toList ++ '\n' :: "x: case y:".toList) := by
  decide +kernel

end Handoff.Metrics
