import Handoff.Text.Lines
import Handoff.Text.Scan
import Mathlib.Data.List.TakeWhile

/-! # Scans

What a scan takes is passed over as a whole, and the scan goes on behind it. For a recogniser that
does not look at the character before, a scan depends on the rest of the text alone. A text is cut
at the first place of a character or of a piece. A piece is looked for on either side of a character
that is not in it. What is asked of the characters of a text is decided by going through the text.
-/

namespace Handoff.Text

section Decision

-- These go before the instances that try all characters there are.
variable (p : Char → Prop) [DecidablePred p] (text : List Char) (place : Option Char)

instance (priority := 2000) decidableForallChar : Decidable (∀ c ∈ text, p c) :=
  List.decidableBAll p text

instance (priority := 2000) decidableExistsChar : Decidable (∃ c ∈ text, p c) :=
  List.decidableBEx p text

instance (priority := 2000) decidableForallPlace : Decidable (∀ c ∈ place, p c) :=
  match place with
  | none => .isTrue (by simp)
  | some c => decidable_of_iff (p c) (by simp)

instance (priority := 2000) decidableExistsPlace : Decidable (∃ c ∈ place, p c) :=
  match place with
  | none => .isFalse (by simp)
  | some c => decidable_of_iff (p c) (by simp)

end Decision

/-- The last character of a text, or else the one before the text. -/
def lastOr (before : Option Char) (text : List Char) : Option Char := text.getLast?.or before

variable {r : Sighted} {before : Option Char}

theorem lastOr_cons (before : Option Char) (c : Char) (text : List Char) :
    lastOr before (c :: text) = lastOr (some c) text := by
  cases text <;> simp [lastOr, List.getLast?_eq_some_getLast]

theorem lastOr_append (before : Option Char) (a b : List Char) :
    lastOr before (a ++ b) = lastOr (lastOr before a) b := by
  simp [lastOr, List.getLast?_append, Option.or_assoc]

theorem partsFrom_skip (before : Option Char) (taken rest : List Char) :
    partsFrom r before taken.length (taken ++ rest) = partsFrom r (lastOr before taken) 0 rest := by
  induction taken generalizing before with
  | nil => rfl
  | cons c taken ih => rw [lastOr_cons, ← ih]; rfl

theorem partsFrom_unsighted (r : Recogniser) (before before' : Option Char) (skip : Nat)
    (text : List Char) :
    partsFrom (fun _ => r) before skip text = partsFrom (fun _ => r) before' skip text := by
  induction text generalizing before before' skip with
  | nil => cases skip <;> rfl
  | cons c rest ih =>
    cases skip with
    | zero => simp only [partsFrom]
    | succ skip => exact ih ..

theorem partsFrom_drop (r : Recogniser) (before : Option Char) (skip : Nat) (text : List Char) :
    partsFrom (fun _ => r) before skip text = partsFrom (fun _ => r) none 0 (text.drop skip) := by
  induction text generalizing before skip with
  | nil => cases skip <;> simp [partsFrom]
  | cons c rest ih =>
    cases skip with
    | zero => exact partsFrom_unsighted ..
    | succ skip => exact ih ..

theorem occurrences_append {r : Recogniser} {taken rest : List Char} (ne : taken ≠ [])
    (h : r (taken ++ rest) = some rest) :
    occurrences r (taken ++ rest) = taken :: occurrences r rest := by
  obtain ⟨c, taken, rfl⟩ := List.exists_cons_of_ne_nil ne
  have length : r.length (c :: (taken ++ rest)) = taken.length + 1 := by
    rw [Recogniser.length, ← List.cons_append, h]
    simp
    omega
  have cut : (c :: (taken ++ rest)).take (taken.length + 1) = c :: taken := by simp
  simp only [occurrences, sightings, parts, List.cons_append, partsFrom, length, cut]
  rw [partsFrom_skip, partsFrom_unsighted r (lastOr (some c) taken) none]
  rfl

theorem occurrences_cons {r : Recogniser} {c : Char} {rest : List Char}
    (h : r (c :: rest) = none) : occurrences r (c :: rest) = occurrences r rest := by
  have length : r.length (c :: rest) = 0 := by rw [Recogniser.length, h]
  simp only [occurrences, sightings, parts, partsFrom, length]
  rw [partsFrom_unsighted r (some c) none]
  rfl

/-! ## Cutting -/

section Cutting

variable {c : Char} {front rest text piece : List Char}

theorem takeWhile_ne_append (h : c ∉ front) (rest : List Char) :
    (front ++ c :: rest).takeWhile (· != c) = front := by
  rw [List.takeWhile_append_of_pos fun d hd => by simpa using ne_of_mem_of_not_mem hd h]
  simp

theorem dropWhile_ne_append (h : c ∉ front) (rest : List Char) :
    (front ++ c :: rest).dropWhile (· != c) = c :: rest := by
  rw [List.dropWhile_append_of_pos fun d hd => by simpa using ne_of_mem_of_not_mem hd h]
  simp

theorem not_mem_takeWhile_ne (c : Char) (text : List Char) : c ∉ text.takeWhile (· != c) := by
  intro h
  simpa using List.mem_takeWhile_imp h

theorem eq_append_of_dropWhile_ne {d : Char} (h : text.dropWhile (· != c) = d :: rest) :
    text = text.takeWhile (· != c) ++ c :: rest := by
  have hd : (d != c) = false := by
    have := List.head?_dropWhile_not (· != c) text
    simpa [h] using this
  obtain rfl : d = c := by simpa using hd
  rw [← h, List.takeWhile_append_dropWhile]

theorem cutAt_eq_some {a b : List Char} (h : cutAt piece text = some (a, b)) :
    text = a ++ piece ++ b := by
  induction text generalizing a with
  | nil =>
    unfold cutAt at h
    split at h <;> simp_all
  | cons c rest ih =>
    unfold cutAt at h
    split at h
    case isTrue start =>
      obtain ⟨tail, ht⟩ := List.isPrefixOf_iff_prefix.mp start
      simp only [Option.some.injEq, Prod.mk.injEq] at h
      obtain ⟨rfl, rfl⟩ := h
      simp [← ht]
    case isFalse =>
      obtain ⟨⟨a', b'⟩, found, he⟩ := Option.map_eq_some_iff.mp h
      simp only [Prod.mk.injEq] at he
      obtain ⟨rfl, rfl⟩ := he
      simp [ih found]

theorem cutAt_append_ne_none (front piece rest : List Char) :
    cutAt piece (front ++ piece ++ rest) ≠ none := by
  induction front with
  | nil =>
    cases h : [] ++ piece ++ rest with
    | nil => simp_all [cutAt]
    | cons c tail =>
      have start : piece.isPrefixOf (c :: tail) = true :=
        List.isPrefixOf_iff_prefix.mpr ⟨rest, by simpa using h⟩
      simp [cutAt, start]
  | cons c front ih =>
    rw [List.cons_append, List.cons_append, cutAt]
    split
    · simp
    · simpa using ih

theorem holds_iff : holds piece text = true ↔ piece <:+: text := by
  rw [holds, Option.isSome_iff_ne_none]
  constructor
  · intro cut
    obtain ⟨⟨before, after⟩, found⟩ := Option.ne_none_iff_exists'.mp cut
    exact ⟨before, after, (cutAt_eq_some found).symm⟩
  · rintro ⟨before, after, rfl⟩
    exact cutAt_append_ne_none before piece after

/-- A text is cut at a piece whose first character stands nowhere before it. -/
theorem cutAt_append (h : c ∉ front) (piece rest : List Char) :
    cutAt (c :: piece) (front ++ (c :: piece) ++ rest) = some (front, rest) := by
  induction front with
  | nil => simp [cutAt]
  | cons d front ih =>
    obtain ⟨hd, hf⟩ := List.ne_and_not_mem_of_not_mem_cons h
    rw [List.cons_append, List.cons_append, cutAt, ih hf]
    simp [List.isPrefixOf, hd]

theorem cutAt_append_cons (h : c ∉ front) (rest : List Char) :
    cutAt [c] (front ++ c :: rest) = some (front, rest) := by
  rw [List.append_cons]
  exact cutAt_append h [] rest

/-- A text is cut at a place of a piece if and only if no part of the text up to the last character
of this piece is the piece. -/
theorem cutAt_append_eq_iff {a : List Char} (ne : piece ≠ []) (b : List Char) :
    cutAt piece (a ++ piece ++ b) = some (a, b) ↔ ¬ piece <:+: a ++ piece.dropLast := by
  have filled : 0 < piece.length := List.length_pos_iff.mpr ne
  induction a with
  | nil =>
    obtain ⟨c, tail, rfl⟩ := List.exists_cons_of_ne_nil ne
    refine iff_of_true ?_ fun found => ?_
    · exact cutAt_append List.not_mem_nil tail b
    · have := found.length_le
      simp only [List.nil_append, List.length_dropLast] at this
      omega
  | cons d a ih =>
    have front : d :: (a ++ piece.dropLast) <+: d :: (a ++ piece ++ b) := by
      have some : a ++ piece.dropLast <+: a ++ piece :=
        (List.prefix_append_right_inj a).mpr (List.dropLast_prefix piece)
      exact List.cons_prefix_cons.mpr ⟨rfl, some.trans (List.prefix_append _ b)⟩
    have start : piece <+: d :: (a ++ piece ++ b) ↔ piece <+: d :: (a ++ piece.dropLast) := by
      refine ⟨fun h => List.prefix_of_prefix_length_le h front ?_, fun h => h.trans front⟩
      simp only [List.length_cons, List.length_append, List.length_dropLast]
      omega
    change cutAt piece (d :: (a ++ piece ++ b)) = some (d :: a, b) ↔
      ¬ piece <:+: d :: (a ++ piece.dropLast)
    rw [List.infix_cons_iff, ← start, not_or, cutAt]
    by_cases h : piece <+: d :: (a ++ piece ++ b)
    · rw [if_pos (List.isPrefixOf_iff_prefix.mpr h)]
      exact iff_of_false (by simp) fun absent => absent.1 h
    · rw [if_neg (mt List.isPrefixOf_iff_prefix.mp h), and_iff_right h]
      refine Iff.trans ?_ ih
      simp

theorem infix_append_cons_iff {x y : List Char} (h : c ∉ piece) :
    piece <:+: x ++ c :: y ↔ piece <:+: x ∨ piece <:+: y := by
  constructor
  · intro found
    rcases List.infix_append_iff.mp found with hx | hy | ⟨front, back, rfl, hf, hb⟩
    · exact .inl hx
    · rcases List.infix_cons_iff.mp hy with start | hy
      · rcases List.prefix_cons_iff.mp start with rfl | ⟨tail, rfl, -⟩
        · exact .inl List.nil_infix
        · exact absurd List.mem_cons_self h
      · exact .inr hy
    · rcases List.prefix_cons_iff.mp hb with rfl | ⟨tail, rfl, -⟩
      · exact .inl (by simpa using hf.isInfix)
      · exact absurd (List.mem_append_right front List.mem_cons_self) h
  · rintro (hx | hy)
    · exact hx.trans (List.prefix_append x _).isInfix
    · exact hy.trans ⟨x ++ [c], [], by simp⟩

end Cutting

end Handoff.Text
