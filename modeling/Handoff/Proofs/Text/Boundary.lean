import Handoff.Proofs.Text.Lines

/-! # Lines at every boundary

A line boundary of any kind ends a line. What is read from each line of a text by itself is read
from the two parts of the text around a newline, as long as nothing is read from an empty line. Each
line is a part of the text.
-/

namespace Handoff.Text

variable {α : Type} {text line x y : List Char} {c : Char} {f : List Char → Option α}

theorem boundaryLinesAfter_cons (h : isLineBoundary c = false) (current rest : List Char) :
    boundaryLinesAfter current (c :: rest) = boundaryLinesAfter (c :: current) rest := by
  rw [boundaryLinesAfter, h, if_neg Bool.false_ne_true]
  rintro _ rfl
  exact absurd h (by decide)

/-- A boundary ends a line, unless it is the first half of one. -/
theorem boundaryLinesAfter_boundary (h : isLineBoundary c = true)
    (whole : c = '\r' → y.head? ≠ some '\n') (current : List Char) :
    boundaryLinesAfter current (c :: y) = current.reverse :: boundaryLines y := by
  rw [boundaryLinesAfter, if_pos h]
  · rfl
  · rintro rest rfl rfl
    exact whole rfl rfl

theorem boundaryLinesAfter_of_free (free : ∀ c ∈ line, isLineBoundary c = false)
    {current : List Char} (ne : current.reverse ++ line ≠ []) :
    boundaryLinesAfter current line = [current.reverse ++ line] := by
  induction line generalizing current with
  | nil => simpa [boundaryLinesAfter] using ne
  | cons c line ih =>
    obtain ⟨first, others⟩ := List.forall_mem_cons.mp free
    have moved : (c :: current).reverse ++ line = current.reverse ++ c :: line := by simp
    rw [boundaryLinesAfter_cons first, ih others (moved ▸ ne), moved]

theorem boundaryLines_of_free (free : ∀ c ∈ line, isLineBoundary c = false) (ne : line ≠ []) :
    boundaryLines line = [line] :=
  boundaryLinesAfter_of_free free ne

theorem infix_of_mem_boundaryLinesAfter {current : List Char}
    (h : line ∈ boundaryLinesAfter current text) :
    line <:+: current.reverse ++ text := by
  fun_induction boundaryLinesAfter current text with
  | case1 current none => cases h
  | case2 current filled =>
    obtain rfl := List.mem_singleton.mp h
    exact (List.prefix_append _ _).isInfix
  | case3 current rest ih =>
    rcases List.mem_cons.mp h with rfl | h
    · exact (List.prefix_append _ _).isInfix
    · exact (ih h).trans ⟨current.reverse ++ ['\r', '\n'], [], by simp⟩
  | case4 current c rest _ boundary ih =>
    rcases List.mem_cons.mp h with rfl | h
    · exact (List.prefix_append _ _).isInfix
    · exact (ih h).trans ⟨current.reverse ++ [c], [], by simp⟩
  | case5 current c rest _ inside ih => simpa using ih h

theorem infix_of_mem_boundaryLines (h : line ∈ boundaryLines text) : line <:+: text :=
  infix_of_mem_boundaryLinesAfter h

theorem filterMap_boundaryLinesAfter_append (blank : f [] = none) (current x y : List Char) :
    (boundaryLinesAfter current (x ++ '\n' :: y)).filterMap f =
      (boundaryLinesAfter current x).filterMap f ++ (boundaryLines y).filterMap f := by
  have newline (current : List Char) :
      boundaryLinesAfter current ('\n' :: y) = current.reverse :: boundaryLines y :=
    boundaryLinesAfter_boundary (by decide) (fun half => absurd half (by decide)) current
  fun_induction boundaryLinesAfter current x with
  | case1 current none =>
    rw [List.nil_append, newline, List.isEmpty_iff.mp none, List.reverse_nil,
      List.filterMap_cons_none blank]
    rfl
  | case2 current filled =>
    rw [List.nil_append, newline, ← List.filterMap_append, List.singleton_append]
  | case3 current rest ih =>
    rw [List.cons_append, List.cons_append, boundaryLinesAfter, ← List.singleton_append,
      List.filterMap_append, ih, ← List.append_assoc, ← List.filterMap_append,
      List.singleton_append]
  | case4 current c rest unlike boundary ih =>
    rw [← List.singleton_append (l := boundaryLinesAfter [] rest), List.filterMap_append,
      List.append_assoc, ← ih]
    by_cases half : c = '\r' ∧ rest = []
    · -- the newline is the second half of a boundary, and opens no empty line behind the first
      obtain ⟨rfl, rfl⟩ := half
      rw [List.cons_append, List.nil_append, boundaryLinesAfter, newline, List.reverse_nil,
        List.filterMap_cons_none blank, ← List.filterMap_append]
      rfl
    · have whole : c = '\r' → (rest ++ '\n' :: y).head? ≠ some '\n' := by
        rintro rfl
        cases rest with
        | nil => exact absurd ⟨rfl, rfl⟩ half
        | cons d rest =>
          intro second
          obtain rfl := Option.some.inj second
          exact unlike rest rfl rfl
      rw [List.cons_append, boundaryLinesAfter_boundary boundary whole, ← List.filterMap_append]
      rfl
  | case5 current c rest _ inside ih =>
    rw [List.cons_append, boundaryLinesAfter_cons (by simpa using inside), ih]

/-- What is read from the lines of a text is read from the parts of the text around a newline. -/
theorem filterMap_boundaryLines_append (blank : f [] = none) (x y : List Char) :
    (boundaryLines (x ++ '\n' :: y)).filterMap f =
      (boundaryLines x).filterMap f ++ (boundaryLines y).filterMap f :=
  filterMap_boundaryLinesAfter_append blank [] x y

theorem filterMap_boundaryLines_joinLines (blank : f [] = none) (texts : List String) :
    (boundaryLines (joinLines texts).toList).filterMap f =
      texts.flatMap fun text => (boundaryLines text.toList).filterMap f := by
  induction texts with
  | nil => rfl
  | cons text more ih =>
    rcases eq_or_ne more [] with rfl | filled
    · simp [joinLines]
    · rw [toList_joinLines_cons text filled, filterMap_boundaryLines_append blank, ih,
        List.flatMap_cons]

end Handoff.Text
