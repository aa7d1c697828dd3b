import Handoff.Markup.Tag
import Handoff.Proofs.Text.Ascii
import Handoff.Proofs.Text.Scan

/-! # Marks

The balance of a source sees two things of a tag: whether it closes an element, and the name. Marks
that are balanced leave the stack as it is. The marks of a source are put together from those of its
pieces, provided that no tag reaches from one piece into the next.
-/

namespace Handoff.Markup

open Text

/-- What the balance sees of a tag. -/
structure Mark where
  closing : Bool
  name : List Char
deriving DecidableEq

def Tag.mark (tag : Tag) : Mark := ⟨tag.closing, tag.name⟩

/-- Each opening mark is closed under its own name, and what stands between the two is balanced. -/
inductive Balanced : List Mark → Prop
  | nil : Balanced []
  | element {inner rest : List Mark} (name : List Char) :
    Balanced inner → Balanced rest → Balanced (⟨false, name⟩ :: inner ++ ⟨true, name⟩ :: rest)

theorem Balanced.append {m n : List Mark} (hm : Balanced m) (hn : Balanced n) :
    Balanced (m ++ n) := by
  induction hm with
  | nil => exact hn
  | element name inner _ _ ih =>
    rw [List.append_assoc, List.cons_append]
    exact .element name inner ih

theorem Balanced.wrap {m : List Mark} (hm : Balanced m) (name : List Char) :
    Balanced (⟨false, name⟩ :: m ++ [⟨true, name⟩]) :=
  .element name hm .nil

theorem Balanced.countP {m : List Mark} (hm : Balanced m) :
    m.countP (!·.closing) = m.countP (·.closing) := by
  induction hm with
  | nil => rfl
  | element name _ _ inside behind =>
    simp only [List.cons_append, List.countP_cons, List.countP_append, inside, behind]
    simp only [Bool.not_true, Bool.not_false, Bool.false_eq_true, if_true, if_false]
    omega

theorem balance_append {marks : List Mark} (h : Balanced marks) (stack : List Tag)
    (tags : List Tag) (ht : tags.map Tag.mark = marks) (rest : List Tag) :
    balance stack (tags ++ rest) = balance stack rest := by
  induction h generalizing stack tags rest with
  | nil => rw [List.map_eq_nil_iff.mp ht, List.nil_append]
  | element name _ _ inside behind =>
    obtain ⟨front, back, rfl, hfront, hback⟩ := List.map_eq_append_iff.mp ht
    obtain ⟨opened, inner, rfl, ho, hi⟩ := List.map_eq_cons_iff.mp hfront
    obtain ⟨closed, after, rfl, hc, ha⟩ := List.map_eq_cons_iff.mp hback
    obtain ⟨isOpening, opens⟩ := Mark.mk.inj ho
    obtain ⟨isClosing, closes⟩ := Mark.mk.inj hc
    calc balance stack (opened :: inner ++ closed :: after ++ rest)
        = balance (opened :: stack) (inner ++ (closed :: after ++ rest)) := by
          simp [balance, isOpening]
      _ = balance (opened :: stack) (closed :: after ++ rest) := inside _ _ hi _
      _ = balance stack (after ++ rest) := by simp [balance, isClosing, opens, closes]
      _ = balance stack rest := behind _ _ ha _

/-! ## The tags of a text -/

def Tag.unplaced (tag : Tag) : Tag := { tag with place := .start }

def bareTags (before : Option Char) (text : List Char) : List Tag :=
  (tagsFrom before .start 0 text).map Tag.unplaced

def marksOf (jsx : Bool) (tags : List Tag) : List Mark := (tags.filter (·.counts jsx)).map Tag.mark

def marks (jsx : Bool) (before : Option Char) (text : List Char) : List Mark :=
  marksOf jsx (tagsFrom before .start 0 text)

variable {jsx : Bool} {before : Option Char} {place place' : Position} {c : Char}
  {text rest taken : List Char}

theorem marksOf_append (s t : List Tag) :
    marksOf jsx (s ++ t) = marksOf jsx s ++ marksOf jsx t := by
  rw [marksOf, List.filter_append, List.map_append, marksOf, marksOf]

theorem marks_eq (jsx : Bool) (before : Option Char) (text : List Char) :
    marks jsx before text = marksOf jsx (bareTags before text) := by
  rw [bareTags, marksOf, List.filter_map, List.map_map]
  rfl

theorem tagAt?_place (before : Option Char) (place place' : Position) (text : List Char) :
    tagAt? before place text =
      (tagAt? before place' text).map fun found => ({ found.1 with place }, found.2) := by
  unfold tagAt?
  split
  · rename_i rest
    dsimp only
    generalize (if (before.map allowsTag).getD true = true then tagName? rest else none) = opening
    cases opening with
    | some name => rfl
    | none =>
      dsimp only
      split
      · cases tagName? _ <;> rfl
      · rfl
  · rfl

theorem bareTags_tagsFrom (before : Option Char) (place place' : Position) (skip : Nat)
    (text : List Char) :
    (tagsFrom before place skip text).map Tag.unplaced =
      (tagsFrom before place' skip text).map Tag.unplaced := by
  induction text generalizing before place place' skip with
  | nil => cases skip <;> rfl
  | cons c rest ih =>
    cases skip with
    | succ skip => exact ih ..
    | zero =>
      simp only [tagsFrom]
      rw [tagAt?_place before place place']
      cases tagAt? before place' (c :: rest) with
      | none => exact ih ..
      | some found =>
        simp only [Option.map_some, List.map_cons, ih (some c) (place.advance c) (place'.advance c)]
        rfl

theorem tagsFrom_skip (before : Option Char) (place : Position) (taken rest : List Char) :
    tagsFrom before place taken.length (taken ++ rest) =
      tagsFrom (lastOr before taken) (place.after taken) 0 rest := by
  induction taken generalizing before place with
  | nil => rfl
  | cons c taken ih => rw [lastOr_cons]; exact ih ..

theorem bareTags_pass (h : tagAt? before .start (c :: rest) = none) :
    bareTags before (c :: rest) = bareTags (some c) rest := by
  rw [bareTags, tagsFrom, h]
  exact bareTags_tagsFrom ..

theorem bareTags_take {tag : Tag} (h : tagAt? before .start (c :: taken ++ rest) =
      some (tag, taken.length + 1)) :
    bareTags before (c :: taken ++ rest) =
      tag.unplaced :: bareTags (lastOr (some c) taken) rest := by
  rw [List.cons_append] at h ⊢
  rw [bareTags, tagsFrom, h]
  simp only [Nat.add_sub_cancel, tagsFrom_skip, List.map_cons]
  rw [bareTags_tagsFrom, bareTags]

theorem marks_pass (h : tagAt? before .start (c :: rest) = none) :
    marks jsx before (c :: rest) = marks jsx (some c) rest := by
  rw [marks_eq, bareTags_pass h, marks_eq]

theorem checkTags_eq_nil {source : List Char} (balanced : Balanced (marks jsx none source))
    (plain : jsx = true → plainNamesFrom none .start source = []) (checkAttributes : Bool) :
    checkTags jsx checkAttributes source = [] := by
  have settled := balance_append balanced [] ((tagsOf source).filter (·.counts jsx)) rfl []
  rw [List.append_nil] at settled
  unfold checkTags
  rw [settled]
  cases jsx with
  | false => simp [balance]
  | true => simp [balance, plain rfl]

end Handoff.Markup
