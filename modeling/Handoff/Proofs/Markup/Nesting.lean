import Handoff.Proofs.Markup.Mark
import Mathlib.Data.List.Basic

/-! # Nesting

Walking strictly through marks keeps the names of the open elements, and a closing mark has to close
the innermost one. Balanced marks are those that are walked through with nothing left open. The
stack of the tag checks has no fault to report as long as the strict walk goes on, so that a source
without tag findings is one with balanced marks. No tag is ever taken off an empty stack.
-/

namespace Handoff.Markup

open Text

variable {jsx : Bool} {names left : List (List Char)} {name : List Char} {m n : List Mark}
  {stack tags : List Tag}

/-! ## The strict walk -/

/-- The names that are open behind marks, innermost first, given those that are open before. -/
def openBehind (names : List (List Char)) : List Mark → Option (List (List Char))
  | [] => some names
  | ⟨false, name⟩ :: rest => openBehind (name :: names) rest
  | ⟨true, name⟩ :: rest =>
    match names with
    | [] => none
    | innermost :: outer => if innermost = name then openBehind outer rest else none

@[simp] theorem openBehind_opening :
    openBehind names (⟨false, name⟩ :: m) = openBehind (name :: names) m := rfl

@[simp] theorem openBehind_closing (innermost : List Char) :
    openBehind (innermost :: names) (⟨true, name⟩ :: m) =
      if innermost = name then openBehind names m else none := rfl

theorem openBehind_append :
    openBehind names (m ++ n) = (openBehind names m).bind (openBehind · n) := by
  induction m generalizing names with
  | nil => rfl
  | cons mark m ih =>
    obtain ⟨closing, name⟩ := mark
    cases closing with
    | false => simp [ih]
    | true =>
      cases names with
      | nil => rfl
      | cons innermost outer =>
        simp only [List.cons_append, openBehind_closing]
        split
        · exact ih
        · rfl

theorem openBehind_of_balanced (h : Balanced m) (names : List (List Char)) :
    openBehind names m = some names := by
  induction h generalizing names with
  | nil => rfl
  | element name _ _ inside behind =>
    rw [List.cons_append, openBehind_opening, openBehind_append, inside]
    simp [behind]

/-- Marks close names one after the other, and what stands between is balanced. -/
inductive Closes : List (List Char) → List Mark → Prop
  | none {m : List Mark} : Balanced m → Closes [] m
  | next {names : List (List Char)} {m n : List Mark} (name : List Char) :
    Balanced m → Closes names n → Closes (name :: names) (m ++ ⟨true, name⟩ :: n)

theorem Closes.behind (hm : Balanced m) (hn : Closes names n) : Closes names (m ++ n) := by
  cases hn with
  | none balanced => exact .none (hm.append balanced)
  | next name balanced rest =>
    rw [← List.append_assoc]
    exact .next name (hm.append balanced) rest

theorem closes_of_openBehind (h : openBehind names m = some []) : Closes names m := by
  induction m generalizing names with
  | nil =>
    cases h
    exact .none .nil
  | cons mark m ih =>
    obtain ⟨closing, name⟩ := mark
    cases closing with
    | false =>
      cases ih h with
      | next _ inner rest =>
        rw [← List.cons_append, List.append_cons]
        exact .behind (inner.wrap name) rest
    | true =>
      cases names with
      | nil => cases h
      | cons innermost outer =>
        rw [openBehind_closing] at h
        split at h
        · rename_i same
          subst same
          exact .next innermost .nil (ih h)
        · cases h

theorem balanced_iff_openBehind : Balanced m ↔ openBehind [] m = some [] := by
  constructor
  · exact fun h => openBehind_of_balanced h []
  · intro h
    cases closes_of_openBehind h with
    | none balanced => exact balanced

/-! ## The stack of the balance -/

/-- As long as the strict walk goes on, there are no faults, and the stack holds the tags of the
open names. -/
theorem balance_of_openBehind {names : List (List Char)}
    (h : openBehind (stack.map Tag.name) (tags.map Tag.mark) = some names) :
    ∃ left, left.map Tag.name = names ∧ ∀ rest, balance stack (tags ++ rest) =
      balance left rest := by
  induction tags generalizing stack with
  | nil => exact ⟨stack, Option.some.inj h, fun _ => rfl⟩
  | cons tag tags ih =>
    obtain ⟨closing, name, place, slash⟩ := tag
    cases closing with
    | false =>
      obtain ⟨left, hl, walk⟩ := @ih (⟨false, name, place, slash⟩ :: stack) h
      exact ⟨left, hl, fun rest => by simp [balance, walk]⟩
    | true =>
      cases stack with
      | nil => cases h
      | cons top below =>
        rw [List.map_cons, List.map_cons, Tag.mark, openBehind_closing] at h
        split at h
        · rename_i same
          obtain ⟨left, hl, walk⟩ := ih h
          exact ⟨left, hl, fun rest => by simp [balance, same, walk]⟩
        · cases h

theorem openBehind_of_faultless (stack : List Tag) (h : (balance stack tags).1 = []) :
    openBehind (stack.map Tag.name) (tags.map Tag.mark) =
      some ((balance stack tags).2.map Tag.name) := by
  induction tags generalizing stack with
  | nil => rfl
  | cons tag tags ih =>
    obtain ⟨closing, name, place, slash⟩ := tag
    cases closing with
    | false => exact ih (⟨false, name, place, slash⟩ :: stack) h
    | true =>
      cases stack with
      | nil => simp [balance] at h
      | cons top below =>
        rw [List.map_cons, List.map_cons, Tag.mark, openBehind_closing]
        by_cases same : top.name = name
        · simp only [balance, same, Bool.not_true, Bool.false_eq_true, if_false, beq_self_eq_true,
            if_true] at h ⊢
          exact ih below h
        · simp [balance, same] at h

theorem balance_eq_nil_iff : balance [] tags = ([], []) ↔ Balanced (tags.map Tag.mark) := by
  constructor
  · intro h
    rw [balanced_iff_openBehind]
    have faultless : (balance [] tags).1 = [] := by rw [h]
    simpa [h] using openBehind_of_faultless [] faultless
  · intro h
    simpa [balance] using balance_append h [] tags rfl []

theorem unwind_suffix (name : List Char) (stack : List Tag) : unwind name stack <:+ stack := by
  unfold unwind
  split
  · exact (List.drop_suffix 1 _).trans (List.dropWhile_suffix _)
  · exact List.drop_suffix 1 stack

/-- The tags that stay open are opening tags in the order in which they were met. -/
theorem left_sublist (stack tags : List Tag) :
    (balance stack tags).2.reverse.Sublist (stack.reverse ++ tags.filter (!·.closing)) := by
  induction tags generalizing stack with
  | nil => simp [balance]
  | cons tag tags ih =>
    have shrinks {smaller : List Tag} (h : smaller <:+ stack) :
        (balance smaller tags).2.reverse.Sublist (stack.reverse ++ tags.filter (!·.closing)) :=
      (ih smaller).trans (h.sublist.reverse.append_right _)
    cases closing : tag.closing with
    | false => simpa [balance, closing] using ih (tag :: stack)
    | true =>
      cases stack with
      | nil => simpa [balance, closing] using ih []
      | cons top below =>
        simp only [balance, closing, Bool.not_true, Bool.false_eq_true, if_false, List.filter_cons]
        split
        · exact shrinks (List.suffix_cons top below)
        · exact shrinks (unwind_suffix tag.name (top :: below))

/-! ## Taking tags off the stack -/

/-- Takes tags off a stack one by one until one of a name has been taken. It fails where the stack
runs empty before. -/
def takeThrough? (name : List Char) : List Tag → Option (List Tag)
  | [] => none
  | top :: below => if top.name == name then some below else takeThrough? name below

/-- The walk through tags in which it is a failure to take a tag off an empty stack. -/
def balance? (stack : List Tag) : List Tag → Option (List TagFault × List Tag)
  | [] => some ([], stack)
  | tag :: rest =>
    if !tag.closing then balance? (tag :: stack) rest
    else match stack with
      | [] => (balance? [] rest).map fun (faults, left) => (.unexpected tag :: faults, left)
      | top :: below =>
        if top.name == tag.name then (top :: below).tail?.bind (balance? · rest)
        else
          let unwound :=
            if (top :: below).any (·.name == tag.name) then takeThrough? tag.name (top :: below)
            else (top :: below).tail?
          (unwound.bind (balance? · rest)).map fun (faults, left) =>
            (.mismatched tag top :: faults, left)

theorem takeThrough?_eq_some {name : List Char} (h : stack.any (·.name == name) = true) :
    takeThrough? name stack = some ((stack.dropWhile (·.name != name)).drop 1) := by
  induction stack with
  | nil => cases h
  | cons top below ih =>
    unfold takeThrough?
    split
    case isTrue same => simp [bne, same]
    case isFalse other =>
      rw [ih (by simpa [other] using h)]
      simp [bne, other]

theorem balance?_eq_some (stack tags : List Tag) :
    balance? stack tags = some (balance stack tags) := by
  induction tags generalizing stack with
  | nil => rfl
  | cons tag tags ih =>
    unfold balance? balance
    split
    case isTrue => exact ih _
    case isFalse =>
      cases stack with
      | nil => simp [ih]
      | cons top below =>
        dsimp only
        split
        case isTrue => exact ih below
        case isFalse =>
          have unwound : (if (top :: below).any (·.name == tag.name) then
              takeThrough? tag.name (top :: below) else (top :: below).tail?) =
                some (unwind tag.name (top :: below)) := by
            unfold unwind
            split
            case isTrue member => exact takeThrough?_eq_some member
            case isFalse => rfl
          rw [unwound]
          simp [ih]

/-! ## Findings about tags -/

/-- Whether a finding is about a tag, not about the name of an attribute. -/
def isTagFinding (finding : Finding) : Bool := finding.category == "syntax"

def isUnclosed (finding : Finding) : Bool :=
  "Unclosed tag: ".toList.isPrefixOf finding.message.toList

theorem plainNamesFrom_eq {before : Option Char} {place : Position} {source : List Char} :
    ∀ finding ∈ plainNamesFrom before place source,
      ∃ plain jsx place', finding = plainNameFinding plain jsx place' := by
  induction source generalizing before place with
  | nil => simp [plainNamesFrom]
  | cons c rest ih =>
    unfold plainNamesFrom
    refine List.forall_mem_append.mpr ⟨?_, ih⟩
    split
    · simp
    · split
      · exact List.forall_mem_singleton.mpr ⟨_, _, _, rfl⟩
      · split
        · exact List.forall_mem_singleton.mpr ⟨_, _, _, rfl⟩
        · simp

theorem isTagFinding_plainName (plain jsx : String) (place : Position) :
    isTagFinding (plainNameFinding plain jsx place) = false := rfl

theorem isUnclosed_plainName (plain jsx : String) (place : Position) :
    isUnclosed (plainNameFinding plain jsx place) = false := by
  simp [isUnclosed, plainNameFinding, findingAt, toString, List.isPrefixOf]

theorem isTagFinding_fault (fault : TagFault) : isTagFinding (fault.toFinding jsx) = true := by
  cases fault <;> rfl

theorem isUnclosed_fault (fault : TagFault) : isUnclosed (fault.toFinding jsx) = false := by
  cases fault <;> simp [isUnclosed, TagFault.toFinding, findingAt, toString, List.isPrefixOf]

theorem isUnclosed_unclosed (tag : Tag) : isUnclosed (unclosedFinding jsx tag) = true := by
  simp [isUnclosed, unclosedFinding, findingAt]

section Findings

variable (jsx checkAttributes : Bool) (source : List Char)

def countedTags : List Tag := (tagsOf source).filter (·.counts jsx)

theorem mark_countedTags : (countedTags jsx source).map Tag.mark = marks jsx none source := rfl

theorem checkTags_markup_eq_nil_iff :
    checkTags false checkAttributes source = [] ↔ Balanced (marks false none source) := by
  rw [← mark_countedTags, ← balance_eq_nil_iff, Prod.ext_iff]
  simp [checkTags, countedTags]

/-- Faults and plain names come first, and the tags that stay open come behind them. -/
theorem checkTags_eq : ∃ front,
    checkTags jsx checkAttributes source =
      front ++ (balance [] (countedTags jsx source)).2.reverse.map (unclosedFinding jsx) ∧
    front.Perm ((balance [] (countedTags jsx source)).1.map (·.toFinding jsx) ++
      if checkAttributes && jsx then plainNamesFrom none .start source else []) := by
  refine ⟨_, rfl, ?_⟩
  split
  · exact List.mergeSort_perm _ _
  · exact .of_eq (List.append_nil _).symm

theorem filter_plainNames {p : Finding → Bool}
    (other : ∀ plain jsx place, p (plainNameFinding plain jsx place) = false) :
    (if checkAttributes && jsx then plainNamesFrom none .start source else []).filter p = [] := by
  refine List.filter_eq_nil_iff.mpr fun finding hf => ?_
  split at hf
  · obtain ⟨plain, jsx, place, rfl⟩ := plainNamesFrom_eq finding hf
    simp [other]
  · cases hf

/-- The tag findings are the faults of closing tags and the tags that stay open, each one once. -/
theorem tagFindings_perm :
    ((checkTags jsx checkAttributes source).filter isTagFinding).Perm
      ((balance [] (countedTags jsx source)).1.map (·.toFinding jsx) ++
        (balance [] (countedTags jsx source)).2.reverse.map (unclosedFinding jsx)) := by
  obtain ⟨front, found, order⟩ := checkTags_eq jsx checkAttributes source
  have unclosed (left : List Tag) :
      (left.map (unclosedFinding jsx)).filter isTagFinding = left.map (unclosedFinding jsx) :=
    List.filter_eq_self.mpr (List.forall_mem_map.mpr fun _ _ => rfl)
  have wrong (faults : List TagFault) :
      (faults.map (·.toFinding jsx)).filter isTagFinding = faults.map (·.toFinding jsx) :=
    List.filter_eq_self.mpr (List.forall_mem_map.mpr fun fault _ => isTagFinding_fault fault)
  rw [found, List.filter_append, unclosed]
  refine .append_right _ ((order.filter isTagFinding).trans (.of_eq ?_))
  rw [List.filter_append, wrong, filter_plainNames _ _ _ isTagFinding_plainName, List.append_nil]

theorem length_tagFindings :
    ((checkTags jsx checkAttributes source).filter isTagFinding).length =
      (balance [] (countedTags jsx source)).1.length +
        (balance [] (countedTags jsx source)).2.length := by
  simp [(tagFindings_perm jsx checkAttributes source).length_eq]

/-- The findings about tags that stay open are in the order in which these are opened. -/
theorem unclosedFindings_eq :
    (checkTags jsx checkAttributes source).filter isUnclosed =
      (balance [] (countedTags jsx source)).2.reverse.map (unclosedFinding jsx) := by
  obtain ⟨front, found, order⟩ := checkTags_eq jsx checkAttributes source
  have unclosed (left : List Tag) :
      (left.map (unclosedFinding jsx)).filter isUnclosed = left.map (unclosedFinding jsx) :=
    List.filter_eq_self.mpr (List.forall_mem_map.mpr fun tag _ => isUnclosed_unclosed tag)
  have wrong (faults : List TagFault) : (faults.map (·.toFinding jsx)).filter isUnclosed = [] :=
    List.filter_eq_nil_iff.mpr (List.forall_mem_map.mpr fun fault _ => by simp [isUnclosed_fault])
  have none : (front.filter isUnclosed).Perm [] := by
    refine (order.filter isUnclosed).trans (.of_eq ?_)
    rw [List.filter_append, wrong, filter_plainNames _ _ _ isUnclosed_plainName, List.append_nil]
  rw [found, List.filter_append, unclosed, none.eq_nil, List.nil_append]

/-- The checks have nothing to say about the tags of a source exactly if its marks are balanced, in
either dialect. No tag is ever taken off an empty stack. The tag findings are the faults of this
walk and the tags that it leaves open, and the latter are opening tags, reported in the order of the
source. -/
theorem tag_findings_exact :
    ((∀ finding ∈ checkTags jsx checkAttributes source, isTagFinding finding = false) ↔
        Balanced (marks jsx none source)) ∧
      ∃ faults left, balance? [] (countedTags jsx source) = some (faults, left) ∧
        ((checkTags jsx checkAttributes source).filter isTagFinding).Perm
          (faults.map (·.toFinding jsx) ++ left.reverse.map (unclosedFinding jsx)) ∧
        (checkTags jsx checkAttributes source).filter isUnclosed =
          left.reverse.map (unclosedFinding jsx) ∧
        left.reverse.Sublist ((countedTags jsx source).filter (!·.closing)) := by
  refine ⟨?_, _, _, balance?_eq_some [] _, tagFindings_perm jsx checkAttributes source,
    unclosedFindings_eq jsx checkAttributes source, left_sublist [] _⟩
  calc (∀ finding ∈ checkTags jsx checkAttributes source, isTagFinding finding = false)
      ↔ ((checkTags jsx checkAttributes source).filter isTagFinding).length = 0 := by
        simp
    _ ↔ balance [] (countedTags jsx source) = ([], []) := by
        rw [length_tagFindings, Nat.add_eq_zero_iff, List.length_eq_zero_iff,
          List.length_eq_zero_iff, Prod.ext_iff]
    _ ↔ Balanced (marks jsx none source) := balance_eq_nil_iff

end Findings

end Handoff.Markup
