import Handoff.Markup.Escape
import Mathlib.Logic.Basic

/-! # Escaped text

No bracket is left in an escaped text, and the references in it are read back as the characters that
they stand for.
-/

namespace Handoff.Markup

variable {c : Char} {rest : List Char}

/-- The text with the references to the three characters read. -/
def unescape : List Char → List Char
  | '&' :: 'a' :: 'm' :: 'p' :: ';' :: rest => '&' :: unescape rest
  | '&' :: 'l' :: 't' :: ';' :: rest => '<' :: unescape rest
  | '&' :: 'g' :: 't' :: ';' :: rest => '>' :: unescape rest
  | c :: rest => c :: unescape rest
  | [] => []

theorem unescape_cons (h : c ≠ '&') (rest : List Char) :
    unescape (c :: rest) = c :: unescape rest := by
  rw [unescape.eq_def]
  split
  · exact absurd (List.cons.inj ‹_›).1 h
  · exact absurd (List.cons.inj ‹_›).1 h
  · exact absurd (List.cons.inj ‹_›).1 h
  · obtain ⟨rfl, rfl⟩ := List.cons.inj ‹_›
    rfl
  · cases ‹_›

/-- A character becomes a reference, or it is none of the three and stays as it is. -/
theorem escapeChar_cases (c : Char) :
    (c = '&' ∧ escapeChar c = "&amp;".toList) ∨ (c = '<' ∧ escapeChar c = "&lt;".toList) ∨
      (c = '>' ∧ escapeChar c = "&gt;".toList) ∨
      (c ≠ '&' ∧ c ≠ '<' ∧ c ≠ '>' ∧ escapeChar c = [c]) := by
  rcases eq_or_ne c '&' with rfl | amp
  · exact .inl ⟨rfl, rfl⟩
  rcases eq_or_ne c '<' with rfl | lt
  · exact .inr (.inl ⟨rfl, rfl⟩)
  rcases eq_or_ne c '>' with rfl | gt
  · exact .inr (.inr (.inl ⟨rfl, rfl⟩))
  · exact .inr (.inr (.inr ⟨amp, lt, gt, by simp [escapeChar, amp, lt, gt]⟩))

theorem unescape_escapeChar (c : Char) (rest : List Char) :
    unescape (escapeChar c ++ rest) = c :: unescape rest := by
  rcases escapeChar_cases c with ⟨rfl, he⟩ | ⟨rfl, he⟩ | ⟨rfl, he⟩ | ⟨amp, -, -, he⟩
  · rw [he]; rfl
  · rw [he]; rfl
  · rw [he]; rfl
  · rw [he]
    exact unescape_cons amp rest

theorem unescape_escape (text : List Char) : unescape (escape text) = text := by
  induction text with
  | nil => rfl
  | cons c text ih => rw [escape, List.flatMap_cons, ← escape, unescape_escapeChar, ih]

theorem unbracketed_escapeChar (c : Char) : '<' ∉ escapeChar c ∧ '>' ∉ escapeChar c := by
  rcases escapeChar_cases c with ⟨-, he⟩ | ⟨-, he⟩ | ⟨-, he⟩ | ⟨-, lt, gt, he⟩
  · rw [he]; decide
  · rw [he]; decide
  · rw [he]; decide
  · rw [he, List.mem_singleton, List.mem_singleton]
    exact ⟨lt.symm, gt.symm⟩

theorem unbracketed_escape (text : List Char) : ∀ c ∈ escape text, c ≠ '<' ∧ c ≠ '>' := by
  intro c hc
  obtain ⟨d, -, hd⟩ := List.mem_flatMap.mp hc
  obtain ⟨lt, gt⟩ := unbracketed_escapeChar d
  exact ⟨fun he => lt (he ▸ hd), fun he => gt (he ▸ hd)⟩

end Handoff.Markup
