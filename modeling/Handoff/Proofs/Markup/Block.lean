import Handoff.Markup.Normal
import Handoff.Proofs.Text.Scan
import Mathlib.Logic.Function.Iterate

/-! # Declarations and comments

A text has a declaration or a comment if one stands anywhere in it. Stripping goes on as long as
there is one, each round takes something away, and so it ends with a text that has none.
-/

namespace Handoff.Markup

open Text

variable {r : Recogniser} {text : List Char}

/-! ## Taking out -/

theorem without_cons (r : Recogniser) (c : Char) (rest : List Char) :
    without r (c :: rest) =
      match r.length (c :: rest) with
      | 0 => c :: without r rest
      | n + 1 => without r (rest.drop n) := by
  simp only [without, replaceWith, parts, partsFrom]
  cases r.length (c :: rest) with
  | zero => simp [partsFrom_unsighted r (some c) none]
  | succ n => simp [partsFrom_drop r (some c) n]

theorem length_without_le (r : Recogniser) (text : List Char) :
    (without r text).length ≤ text.length := by
  induction h : text.length using Nat.strongRecOn generalizing text with
  | ind n ih =>
    subst h
    cases text with
    | nil => simp [without, replaceWith, parts, partsFrom]
    | cons c rest =>
      rw [without_cons]
      split
      · simpa using ih rest.length (by simp) rest rfl
      · rename_i taken _
        have shorter : (rest.drop taken).length < (c :: rest).length := by
          rw [List.length_drop, List.length_cons]
          omega
        have := ih (rest.drop taken).length shorter _ rfl
        omega

/-- Whether a recogniser takes something somewhere in a text. -/
def TakenIn (r : Recogniser) (text : List Char) : Prop :=
  ∃ before after, text = before ++ after ∧ r.length after ≠ 0

theorem without_eq_self (h : ¬ TakenIn r text) : without r text = text := by
  induction text with
  | nil => rfl
  | cons c rest ih =>
    have here : r.length (c :: rest) = 0 := by
      by_contra taken
      exact h ⟨[], c :: rest, rfl, taken⟩
    have later : ¬ TakenIn r rest := by
      rintro ⟨before, after, rfl, taken⟩
      exact h ⟨c :: before, after, rfl, taken⟩
    rw [without_cons, here]
    exact congrArg (c :: ·) (ih later)

theorem length_without_lt (h : TakenIn r text) : (without r text).length < text.length := by
  obtain ⟨before, after, rfl, taken⟩ := h
  induction before with
  | nil =>
    cases after with
    | nil => cases h : r [] <;> simp [Recogniser.length, h] at taken
    | cons c rest =>
      rw [List.nil_append, without_cons]
      cases h : r.length (c :: rest) with
      | zero => exact absurd h taken
      | succ n =>
        have := length_without_le r (rest.drop n)
        simp only [List.length_drop, List.length_cons] at this ⊢
        omega
  | cons c before ih =>
    rw [List.cons_append, without_cons]
    split
    · simpa using ih
    · rename_i n _
      have := length_without_le r ((before ++ after).drop n)
      simp only [List.length_drop, List.length_cons] at this ⊢
      omega

/-! ## Blocks -/

/-- A declaration stands in the text: its end is the first closing bracket behind its start. -/
def HasDeclaration (text : List Char) : Prop :=
  ∃ before body after, '>' ∉ body ∧
    text = before ++ "<?xml".toList ++ body ++ "?>".toList ++ after

def HasComment (text : List Char) : Prop :=
  ∃ before body after, text = before ++ "<!--".toList ++ body ++ "-->".toList ++ after

def HasBlock (text : List Char) : Prop := HasDeclaration text ∨ HasComment text

theorem declaration_eq_some {rest : List Char} (h : declaration text = some rest) :
    ∃ body, '>' ∉ body ∧ text = "<?xml".toList ++ body ++ "?>".toList ++ rest := by
  unfold declaration at h
  split at h
  case isFalse => cases h
  case isTrue start =>
    obtain ⟨tail, rfl⟩ := List.isPrefixOf_iff_prefix.mp start
    rw [List.drop_left' (by decide)] at h
    dsimp only at h
    split at h
    case h_2 => cases h
    case h_1 left cut =>
      split at h
      case isFalse => cases h
      case isTrue mark =>
        obtain rfl := Option.some.inj h
        obtain ⟨body, hb⟩ := List.getLast?_eq_some_iff.mp (by simpa using mark)
        refine ⟨body, fun hm => not_mem_takeWhile_ne '>' tail (by simp [hb, hm]), ?_⟩
        rw [eq_append_of_dropWhile_ne cut, hb]
        simp

theorem declaration_append {body : List Char} (h : '>' ∉ body) (rest : List Char) :
    declaration ("<?xml".toList ++ body ++ "?>".toList ++ rest) = some rest := by
  have split : body ++ "?>".toList ++ rest = (body ++ ['?']) ++ '>' :: rest := by simp
  have hb : '>' ∉ body ++ ['?'] := by simp [h]
  rw [declaration, if_pos (by simp [List.isPrefixOf])]
  rw [List.append_assoc, List.append_assoc, ← List.append_assoc body, split,
    List.drop_left' (by decide)]
  simp only [takeWhile_ne_append hb, dropWhile_ne_append hb]
  simp

theorem takenIn_declaration_iff : TakenIn declaration text ↔ HasDeclaration text := by
  constructor
  · rintro ⟨before, after, rfl, taken⟩
    cases h : declaration after with
    | none => simp [Recogniser.length, h] at taken
    | some rest =>
      obtain ⟨body, hb, rfl⟩ := declaration_eq_some h
      exact ⟨before, body, rest, hb, by simp⟩
  · rintro ⟨before, body, after, hb, rfl⟩
    refine ⟨before, "<?xml".toList ++ body ++ "?>".toList ++ after, by simp, ?_⟩
    rw [Recogniser.length, declaration_append hb]
    simp only [List.length_append]
    have : "<?xml".toList.length = 5 := rfl
    omega

theorem comment_eq_some {rest : List Char} (h : comment text = some rest) :
    ∃ body, text = "<!--".toList ++ body ++ "-->".toList ++ rest := by
  unfold comment at h
  split at h
  case isFalse => cases h
  case isTrue start =>
    obtain ⟨tail, rfl⟩ := List.isPrefixOf_iff_prefix.mp start
    rw [List.drop_left' (by decide)] at h
    obtain ⟨⟨body, left⟩, cut, rfl⟩ := Option.map_eq_some_iff.mp h
    exact ⟨body, by simp [cutAt_eq_some cut]⟩

theorem comment_append_ne_none (body rest : List Char) :
    comment ("<!--".toList ++ body ++ "-->".toList ++ rest) ≠ none := by
  rw [comment, if_pos (by simp [List.isPrefixOf]), List.append_assoc, List.append_assoc,
    List.drop_left' (by decide), ← List.append_assoc]
  simpa using cutAt_append_ne_none body "-->".toList rest

theorem takenIn_comment_iff : TakenIn comment text ↔ HasComment text := by
  constructor
  · rintro ⟨before, after, rfl, taken⟩
    cases h : comment after with
    | none => simp [Recogniser.length, h] at taken
    | some rest =>
      obtain ⟨body, rfl⟩ := comment_eq_some h
      exact ⟨before, body, rest, by simp⟩
  · rintro ⟨before, body, after, rfl⟩
    refine ⟨before, "<!--".toList ++ body ++ "-->".toList ++ after, by simp, ?_⟩
    cases h : comment ("<!--".toList ++ body ++ "-->".toList ++ after) with
    | none => exact absurd h (comment_append_ne_none body after)
    | some rest =>
      obtain ⟨body', he⟩ := comment_eq_some h
      have : "<!--".toList.length = 4 := rfl
      rw [Recogniser.length, h, he]
      simp only [List.length_append]
      omega

/-! ## Stripping -/

theorem stripOnce_eq_self (h : ¬ HasBlock text) : stripOnce text = text := by
  rw [HasBlock, not_or, ← takenIn_declaration_iff, ← takenIn_comment_iff] at h
  rw [stripOnce, without_eq_self h.1, without_eq_self h.2]

theorem length_stripOnce_lt (h : HasBlock text) : (stripOnce text).length < text.length := by
  by_cases hd : TakenIn declaration text
  · exact (length_without_le ..).trans_lt (length_without_lt hd)
  · have hc : TakenIn comment text := by
      rw [takenIn_declaration_iff] at hd
      exact takenIn_comment_iff.mpr (h.resolve_left hd)
    rw [stripOnce, without_eq_self hd]
    exact length_without_lt hc

theorem strip_eq_self (h : ¬ HasBlock text) : strip text = text := by
  rw [strip, stripOnce_eq_self h]
  simp

theorem strip_eq_strip_stripOnce (h : HasBlock text) : strip text = strip (stripOnce text) := by
  rw [strip]
  simp [length_stripOnce_lt h]

/-- Stripping is the loop that makes rounds as long as there is a block, and the loop ends. -/
theorem strip_rounds (text : List Char) :
    ∃ rounds ≤ text.length, strip text = stripOnce^[rounds] text ∧
      (∀ n < rounds, HasBlock (stripOnce^[n] text)) ∧ ¬ HasBlock (stripOnce^[rounds] text) := by
  induction h : text.length using Nat.strongRecOn generalizing text with
  | ind n ih =>
    subst h
    by_cases hb : HasBlock text
    · have shorter := length_stripOnce_lt hb
      obtain ⟨rounds, hr, he, hbs, hn⟩ := ih _ shorter (stripOnce text) rfl
      refine ⟨rounds + 1, by omega, by rw [strip_eq_strip_stripOnce hb, he]; rfl, ?_, hn⟩
      intro m hm
      cases m with
      | zero => exact hb
      | succ m => exact hbs m (by omega)
    · exact ⟨0, Nat.zero_le _, strip_eq_self hb, by simp, hb⟩

theorem not_hasBlock_strip (text : List Char) : ¬ HasBlock (strip text) := by
  obtain ⟨rounds, _, he, _, hn⟩ := strip_rounds text
  exact he ▸ hn

end Handoff.Markup
