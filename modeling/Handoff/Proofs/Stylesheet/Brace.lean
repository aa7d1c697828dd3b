import Handoff.Proofs.Stylesheet.Comment
import Handoff.Proofs.Stylesheet.Line
import Mathlib.Combinatorics.Enumerative.DyckWord

/-! # Matching braces

The braces of a stylesheet match if they are a balanced word, with the comments blanked. The check
adds up how each line changes the depth and looks at the sum behind the last one, so it tells
whether there are as many braces of either kind. It is right unless a brace closes before one is
open and another is left open for it.
-/

namespace Handoff.Stylesheet

open Text

variable {source : List Char} {number : Nat} {lineComments : Bool} {finding : Finding}

/-! ## The braces of a text -/

def brace? (c : Char) : Option DyckStep :=
  if c = '\x7b' then some .U else if c = '\x7d' then some .D else none

def braces (source : List Char) : List DyckStep :=
  (blankLines false (lines source)).flatten.filterMap brace?

/-- Every brace that opens is closed behind it, and every brace that closes was opened before. -/
def HasMatchingBraces (source : List Char) : Prop := ∃ word : DyckWord, word.toList = braces source

theorem hasMatchingBraces_iff : HasMatchingBraces source ↔
    (braces source).count .U = (braces source).count .D ∧
      ∀ i, ((braces source).take i).count .D ≤ ((braces source).take i).count .U := by
  constructor
  · rintro ⟨word, same⟩
    exact same ▸ ⟨word.count_U_eq_count_D, word.count_D_le_count_U⟩
  · rintro ⟨even, led⟩
    exact ⟨⟨braces source, even, led⟩, rfl⟩

theorem depthChange_eq_count (text : List Char) :
    depthChange text = (text.filterMap brace?).count .U - (text.filterMap brace?).count .D := by
  induction text with
  | nil => rfl
  | cons c rest ih =>
    rw [← List.singleton_append, depthChange_append, ih, List.filterMap_append, List.count_append,
      List.count_append]
    have single :
        depthChange [c] = ([c].filterMap brace?).count .U - ([c].filterMap brace?).count .D := by
      by_cases opening : c = '\x7b'
      · subst opening; decide
      · by_cases closing : c = '\x7d'
        · subst closing; decide
        · simp [depthChange, brace?, opening, closing]
    rw [single]
    push_cast
    ring

/-! ## What the check tells of braces -/

def isUnmatched (finding : Finding) : Bool := finding.message == (unmatchedBraces 0).message

theorem isUnmatched_declaration {declaration : Declaration}
    (h : finding ∈ checkDeclaration number declaration) : isUnmatched finding = false := by
  unfold checkDeclaration at h
  split at h
  · cases h
  · rcases List.mem_append.mp h with h | h
    · split at h
      · cases h
      · rw [List.mem_singleton.mp h]
        simp [isUnmatched, unknownProperty, unmatchedBraces, ← String.toList_inj]
    · obtain ⟨fault, -, rfl⟩ := Option.map_eq_some_iff.mp (Option.mem_toList.mp h)
      change (fault.message == _) = false
      cases fault <;> decide

theorem isUnmatched_selector {selector : List Char} (h : finding ∈ checkSelector number selector) :
    isUnmatched finding = false := by
  unfold checkSelector at h
  split at h
  · cases h
  · rw [List.mem_singleton.mp h]
    dsimp only [isUnmatched, unmatchedBraces]
    split
    · decide
    · simp [← String.toList_inj]

/-- No line by itself says that braces do not match. -/
theorem isUnmatched_found {raw text : List Char} (h : IsFound number raw text finding) :
    isUnmatched finding = false := by
  cases h with
  | selector h => exact isUnmatched_selector h
  | declaration _ _ h => exact isUnmatched_declaration h
  | semicolon =>
    change ("Missing semicolon" == _) = false
    decide

theorem filter_checkLines (state : CheckState) (number : Nat) (lines : List (List Char)) :
    (checkLines false state number lines).filter isUnmatched =
      if state.depth + depthChange (blankLines state.inComment lines).flatten = 0 then []
      else [unmatchedBraces (number + lines.length - 1)] := by
  induction lines generalizing state number with
  | nil =>
    rw [checkLines, blankLines, List.flatten_nil]
    by_cases level : state.depth = 0
    · simp [level, depthChange]
    · simp [level, depthChange, isUnmatched, unmatchedBraces]
  | cons raw rest ih =>
    obtain ⟨depth, comment⟩ := checkLine_state false state number raw
    have quiet : (checkLine false state number raw).1.filter isUnmatched = [] :=
      List.filter_eq_nil_iff.mpr fun finding found => by
        simp [isUnmatched_found (isFound_of_mem found)]
    have last : number + 1 + rest.length - 1 = number + (raw :: rest).length - 1 := by
      rw [List.length_cons]
      omega
    rw [checkLines, List.filter_append, quiet, List.nil_append, ih, depth, comment, blankLines,
      List.flatten_cons, depthChange_append, Int.add_assoc, last]

/-- The check tells that braces do not match once, on the last line, if there are more of one
kind. -/
theorem filter_check (source : List Char) :
    (check false source).filter isUnmatched =
      if (braces source).count .U = (braces source).count .D then []
      else [unmatchedBraces (lines source).length] := by
  rw [check, filter_checkLines, Int.zero_add, depthChange_eq_count, Nat.add_sub_cancel_left]
  refine if_congr ?_ rfl rfl
  rw [sub_eq_zero, Nat.cast_inj, braces]

/-- The check tells exactly of braces that do not match, with one finding on the last line. -/
structure TellsBraces (source : List Char) : Prop where
  matching : HasMatchingBraces source → (check false source).filter isUnmatched = []
  unmatched : ¬ HasMatchingBraces source →
    (check false source).filter isUnmatched = [unmatchedBraces (lines source).length]

/-- The check counts the braces of either kind. Its verdict is the one on their order as well, if
and only if braces in equal numbers are never closed before they are opened. -/
theorem tellsBraces_iff (source : List Char) :
    ((check false source).filter isUnmatched =
      if (braces source).count .U = (braces source).count .D then []
      else [unmatchedBraces (lines source).length]) ∧
    (TellsBraces source ↔ ((braces source).count .U = (braces source).count .D →
      ∀ i, ((braces source).take i).count .D ≤ ((braces source).take i).count .U)) := by
  have told := filter_check source
  refine ⟨told, fun tells even => ?_, fun ordered => ⟨fun closed => ?_, fun unclosed => ?_⟩⟩
  · by_contra early
    have found := tells.unmatched fun closed => early (hasMatchingBraces_iff.mp closed).2
    rw [told, if_pos even] at found
    cases found
  · rw [told, if_pos (hasMatchingBraces_iff.mp closed).1]
  · rw [told, if_neg fun even => unclosed (hasMatchingBraces_iff.mpr ⟨even, ordered even⟩)]

/-- A rule that is left open behind a brace that closes nothing. -/
theorem not_tellsBraces_crossed : ¬ TellsBraces "\x7d\n.a \x7b".toList := by
  intro tells
  have crossed : braces "\x7d\n.a \x7b".toList = [.D, .U] := by decide +kernel
  have unclosed : ¬ HasMatchingBraces "\x7d\n.a \x7b".toList := by
    rw [hasMatchingBraces_iff, crossed]
    exact fun closed => absurd (closed.2 1) (by decide)
  have found := tells.unmatched unclosed
  rw [filter_check, crossed] at found
  exact absurd found (by decide)

end Handoff.Stylesheet
