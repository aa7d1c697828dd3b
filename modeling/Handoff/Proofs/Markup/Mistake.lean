import Handoff.Proofs.Markup.Nesting

/-! # One mistake, one finding

A closing mark with a wrong name takes the innermost open tag off the stack, as the right one would.
A missing closing mark leaves one tag too many on the stack. An enclosing element of the same name
takes this tag for its own and leaves its own one behind instead; the first other element that
encloses it reports it and takes both off. If there is none, the tag stays open to the end.
-/

namespace Handoff.Markup

open Text

variable {names outer : List (List Char)} {name : List Char} {before after : List Mark}
  {stack tags : List Tag}

def IsOpen (name : List Char) (marks : List Mark) : Prop := name ∈ (openBehind [] marks).getD []

instance (name : List Char) (marks : List Mark) : Decidable (IsOpen name marks) :=
  inferInstanceAs (Decidable (name ∈ (openBehind [] marks).getD []))

/-- What one mistake makes of marks. -/
inductive Mistake : List Mark → List Mark → Prop
  /-- A closing mark has a name that is not open there. -/
  | renamed (before after : List Mark) (name other : List Char) (unopened : ¬ IsOpen other before) :
    Mistake (before ++ ⟨true, name⟩ :: after) (before ++ ⟨true, other⟩ :: after)
  /-- A closing mark is missing. -/
  | deleted (before after : List Mark) (name : List Char) :
    Mistake (before ++ ⟨true, name⟩ :: after) (before ++ after)

theorem Balanced.before_closing (h : Balanced (before ++ ⟨true, name⟩ :: after)) :
    ∃ outer, openBehind [] before = some (name :: outer) ∧ openBehind outer after = some [] := by
  rw [balanced_iff_openBehind, openBehind_append] at h
  obtain ⟨names, hb, ha⟩ := Option.bind_eq_some_iff.mp h
  cases names with
  | nil => cases ha
  | cons innermost outer =>
    rw [openBehind_closing] at ha
    split at ha
    · rename_i same
      exact ⟨outer, same ▸ hb, ha⟩
    · cases ha

theorem balance_eq_nil_of_openBehind
    (h : openBehind (stack.map Tag.name) (tags.map Tag.mark) = some []) :
    balance stack tags = ([], []) := by
  obtain ⟨left, hl, walk⟩ := balance_of_openBehind h
  obtain rfl := List.map_eq_nil_iff.mp hl
  simpa [balance] using walk []

/-- How many findings a walk through tags comes to. -/
def balanceCount (stack tags : List Tag) : Nat :=
  (balance stack tags).1.length + (balance stack tags).2.length

theorem balanceCount_of_openBehind (stack : List Tag)
    (h : openBehind (stack.map Tag.name) (tags.map Tag.mark) = some names) (rest : List Tag) :
    ∃ left, left.map Tag.name = names ∧
      balanceCount stack (tags ++ rest) = balanceCount left rest := by
  obtain ⟨left, hl, walk⟩ := balance_of_openBehind h
  exact ⟨left, hl, by rw [balanceCount, walk, balanceCount]⟩

theorem balanceCount_surplus (inner : List (List Char)) {surplus : List Char}
    (held : stack.map Tag.name = inner ++ surplus :: outer)
    (closed : openBehind (inner ++ outer) (tags.map Tag.mark) = some []) :
    balanceCount stack tags = 1 := by
  induction tags generalizing stack inner surplus outer with
  | nil =>
    obtain ⟨rfl, rfl⟩ := List.append_eq_nil_iff.mp (Option.some.inj closed)
    simpa [balanceCount, balance] using congrArg List.length held
  | cons tag tags ih =>
    obtain ⟨closing, name, place, slash⟩ := tag
    cases closing with
    | false => exact ih (name :: inner) (congrArg (name :: ·) held) closed
    | true =>
      cases inner with
      | cons innermost inner =>
        obtain ⟨top, below, rfl, ht, hb⟩ := List.map_eq_cons_iff.mp held
        rw [List.map_cons, Tag.mark, List.cons_append, openBehind_closing] at closed
        split at closed
        · rename_i same
          have pop : balanceCount (top :: below) (⟨true, name, place, slash⟩ :: tags) =
              balanceCount below tags := by
            simp [balanceCount, balance, ht, same]
          rw [pop]
          exact ih inner hb closed
        · cases closed
      | nil =>
        obtain ⟨top, below, rfl, ht, hb⟩ := List.map_eq_cons_iff.mp held
        cases outer with
        | nil => cases closed
        | cons enclosing outer =>
          obtain ⟨next, deeper, rfl, hn, hd⟩ := List.map_eq_cons_iff.mp hb
          rw [List.map_cons, Tag.mark, List.nil_append, openBehind_closing] at closed
          split at closed
          · rename_i same
            by_cases taken : surplus = name
            · -- the closing tag of the enclosing element takes the surplus tag in its place
              have pop : balanceCount (top :: next :: deeper) (⟨true, name, place, slash⟩ :: tags) =
                  balanceCount (next :: deeper) tags := by
                simp [balanceCount, balance, ht, taken]
              rw [pop]
              exact ih [] hb closed
            · have unwound : unwind name (top :: next :: deeper) = deeper := by
                simp [unwind, ht, hn, taken, same]
              have settled := balance_eq_nil_of_openBehind (hd ▸ closed)
              simp [balanceCount, balance, ht, taken, unwound, settled]
          · cases closed

/-- A wrong name that is not open is reported once and takes the innermost open tag off the
stack. -/
theorem balanceCount_renamed {other : List Char} (held : stack.map Tag.name = name :: outer)
    (unopened : other ∉ name :: outer) (closed : openBehind outer after = some [])
    (edited : tags.map Tag.mark = ⟨true, other⟩ :: after) : balanceCount stack tags = 1 := by
  obtain ⟨top, below, rfl, ht, hb⟩ := List.map_eq_cons_iff.mp held
  obtain ⟨⟨closing, found, place, slash⟩, rest, rfl, hc, hr⟩ := List.map_eq_cons_iff.mp edited
  obtain ⟨rfl, rfl⟩ : closing = true ∧ found = other := Mark.mk.inj hc
  have absent : ∀ tag ∈ top :: below, tag.name ≠ found := by
    intro tag hm same
    exact unopened (held ▸ same ▸ List.mem_map_of_mem hm)
  have unwound : unwind found (top :: below) = below := by
    have none : (top :: below).any (·.name == found) = false := by
      simpa [List.any_eq_false] using absent
    rw [unwind, none]
    rfl
  have settled : balance below rest = ([], []) :=
    balance_eq_nil_of_openBehind (by rw [hb, hr, closed])
  have wrong : (top.name == found) = false := beq_false_of_ne (absent top List.mem_cons_self)
  simp [balanceCount, balance, wrong, unwound, settled]

/-- One mistake in balanced marks, a closing tag under a name that is not open or a closing tag that
is missing, makes the checks report exactly one finding about tags, in either dialect. -/
theorem one_finding_for_mistake {correct : List Mark} (balanced : Balanced correct)
    (jsx checkAttributes : Bool) (source : List Char)
    (mistake : Mistake correct (marks jsx none source)) :
    ((checkTags jsx checkAttributes source).filter isTagFinding).length = 1 := by
  rw [length_tagFindings, ← balanceCount]
  have edited := mark_countedTags jsx source
  generalize countedTags jsx source = tags at edited ⊢
  generalize marks jsx none source = found at mistake edited
  cases mistake with
  | renamed before after name other unopened =>
    obtain ⟨outer, hb, ha⟩ := balanced.before_closing
    obtain ⟨front, back, rfl, hf, he⟩ := List.map_eq_append_iff.mp edited
    obtain ⟨left, hl, walk⟩ := balanceCount_of_openBehind [] (hf ▸ hb) back
    rw [walk]
    refine balanceCount_renamed hl ?_ ha he
    simpa [IsOpen, hb] using unopened
  | deleted before after name =>
    obtain ⟨outer, hb, ha⟩ := balanced.before_closing
    obtain ⟨front, back, rfl, hf, he⟩ := List.map_eq_append_iff.mp edited
    obtain ⟨left, hl, walk⟩ := balanceCount_of_openBehind [] (hf ▸ hb) back
    rw [walk]
    exact balanceCount_surplus [] hl (he ▸ ha)

/-- An element within an element within one of the same name. -/
def nestedMarks : List Mark :=
  [⟨false, ['a']⟩, ⟨false, ['b']⟩, ⟨false, ['a']⟩, ⟨true, ['a']⟩, ⟨true, ['b']⟩, ⟨true, ['a']⟩]

theorem one_finding_for_mistake_nested :
    Balanced nestedMarks ∧
      Mistake nestedMarks (marks true none "<a class='x'> <b> <a></c></b></a>".toList) ∧
      ((checkTags true true "<a class='x'> <b> <a></c></b></a>".toList).filter
        isTagFinding).length = 1 ∧
      Mistake nestedMarks (marks false none "<a> <b> <a> <br> </b></a>".toList) ∧
      ((checkTags false false "<a> <b> <a> <br> </b></a>".toList).filter isTagFinding).length =
        1 := by
  have balanced : Balanced nestedMarks := balanced_iff_openBehind.mpr (by decide)
  have renamed :
      Mistake nestedMarks (marks true none "<a class='x'> <b> <a></c></b></a>".toList) := by
    have found : marks true none "<a class='x'> <b> <a></c></b></a>".toList =
        [⟨false, ['a']⟩, ⟨false, ['b']⟩, ⟨false, ['a']⟩] ++ ⟨true, ['c']⟩ ::
          [⟨true, ['b']⟩, ⟨true, ['a']⟩] := by decide
    rw [found]
    exact .renamed [⟨false, ['a']⟩, ⟨false, ['b']⟩, ⟨false, ['a']⟩] [⟨true, ['b']⟩, ⟨true, ['a']⟩]
      ['a'] ['c'] (by decide)
  have deleted : Mistake nestedMarks (marks false none "<a> <b> <a> <br> </b></a>".toList) := by
    have found : marks false none "<a> <b> <a> <br> </b></a>".toList =
        [⟨false, ['a']⟩, ⟨false, ['b']⟩, ⟨false, ['a']⟩] ++ [⟨true, ['b']⟩, ⟨true, ['a']⟩] := by
      decide
    rw [found]
    exact .deleted [⟨false, ['a']⟩, ⟨false, ['b']⟩, ⟨false, ['a']⟩]
      [⟨true, ['b']⟩, ⟨true, ['a']⟩] ['a']
  exact ⟨balanced, renamed, one_finding_for_mistake balanced true true _ renamed,
    deleted, one_finding_for_mistake balanced false false _ deleted⟩

end Handoff.Markup
