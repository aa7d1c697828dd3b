import Handoff.Proofs.Markup.Mark

/-! # What a text spells

A piece of a source spells some marks if these are its marks wherever it stands, or at least
wherever a tag can open, and if no tag reaches from it into what follows. Texts without an opening
bracket spell nothing, a tag spells its own mark, and lines spell the marks of each line in turn.
-/

namespace Handoff.Markup

open Text

variable {jsx : Bool} {x y name tail : List Char} {m n : List Mark}

/-- An opening tag can stand behind what is before. -/
def Opens (before : Option Char) : Prop := ∀ c ∈ before, allowsTag c = true

instance (before : Option Char) : Decidable (Opens before) :=
  inferInstanceAs (Decidable (∀ c ∈ before, _))

section Views

variable {β : Type} {view : Option Char → List Char → List β} {s t : List β}

/-- In a view of texts, a text shows some things wherever a tag can open. -/
def Shown (view : Option Char → List Char → List β) (text : List Char) (s : List β) : Prop :=
  ∀ before rest, Opens before → view before (text ++ rest) = s ++ view (lastOr before text) rest

def ShownAnywhere (view : Option Char → List Char → List β) (text : List Char)
    (s : List β) : Prop :=
  ∀ before rest, view before (text ++ rest) = s ++ view (lastOr before text) rest

theorem ShownAnywhere.shown (h : ShownAnywhere view x s) : Shown view x s :=
  fun before rest _ => h before rest

theorem Shown.append_anywhere (hx : Shown view x s) (hy : ShownAnywhere view y t) :
    Shown view (x ++ y) (s ++ t) := by
  intro before rest opens
  rw [List.append_assoc, hx before _ opens, hy, lastOr_append, List.append_assoc]

theorem Shown.append (hx : Shown view x s) (hy : Shown view y t) (ne : x ≠ [])
    (opens : Opens x.getLast?) : Shown view (x ++ y) (s ++ t) := by
  intro before rest first
  have last : lastOr before x = x.getLast? := by
    simp [lastOr, List.getLast?_eq_some_getLast ne]
  rw [List.append_assoc, hx before _ first, hy _ _ (last ▸ opens), lastOr_append, List.append_assoc]

end Views

def Spells (jsx : Bool) (text : List Char) (m : List Mark) : Prop := Shown (marks jsx) text m

/-- A text has some marks wherever it stands. -/
def SpellsAnywhere (jsx : Bool) (text : List Char) (m : List Mark) : Prop :=
  ShownAnywhere (marks jsx) text m

theorem SpellsAnywhere.spells (h : SpellsAnywhere jsx x m) : Spells jsx x m := h.shown

theorem Spells.append_anywhere (hx : Spells jsx x m) (hy : SpellsAnywhere jsx y n) :
    Spells jsx (x ++ y) (m ++ n) := Shown.append_anywhere hx hy

theorem Spells.append (hx : Spells jsx x m) (hy : Spells jsx y n) (ne : x ≠ [])
    (opens : Opens x.getLast?) : Spells jsx (x ++ y) (m ++ n) := Shown.append hx hy ne opens

theorem spells_nil : Spells jsx [] [] := fun _ _ _ => rfl

theorem spells_of_shown {tags : List Tag} (h : Shown bareTags x tags) :
    Spells jsx x (marksOf jsx tags) := by
  intro before rest opens
  rw [marks_eq, h before rest opens, marksOf_append, ← marks_eq]

theorem spellsAnywhere_of_shown {tags : List Tag} (h : ShownAnywhere bareTags x tags) :
    SpellsAnywhere jsx x (marksOf jsx tags) := by
  intro before rest
  rw [marks_eq, h, marksOf_append, ← marks_eq]

theorem Spells.marks_eq (h : Spells jsx x m) : marks jsx none x = m := by
  have whole := h none [] (by simp [Opens])
  rw [List.append_nil] at whole
  rw [whole]
  exact List.append_nil m

/-! ## Texts -/

theorem shown_of_not_mem (h : '<' ∉ x) : ShownAnywhere bareTags x [] := by
  intro before rest
  induction x generalizing before with
  | nil => rfl
  | cons c x ih =>
    obtain ⟨hc, hx⟩ := not_or.mp (List.mem_cons.not.mp h)
    have passed : tagAt? before .start (c :: (x ++ rest)) = none := by
      unfold tagAt?
      split
      · rename_i he
        exact absurd (List.cons.inj he).1.symm hc
      · rfl
    rw [List.cons_append, bareTags_pass passed, ih hx, lastOr_cons]

theorem spellsAnywhere_of_not_mem (h : '<' ∉ x) : SpellsAnywhere jsx x [] :=
  spellsAnywhere_of_shown (shown_of_not_mem h)

theorem spellsAnywhere_glued (hx : '<' ∉ x) (hy : '<' ∉ y) {last first : Char}
    (behind : x.getLast? = some last) (glued : allowsTag last = false)
    (ahead : y.head? = some first) (open_ : first ≠ '/') :
    SpellsAnywhere jsx (x ++ '<' :: y) [] := by
  intro before rest
  obtain ⟨z, rfl⟩ := List.head?_eq_some_iff.mp ahead
  have passed : tagAt? (some last) .start ('<' :: (first :: z ++ rest)) = none := by
    simp [tagAt?, glued, open_]
  have reached : lastOr before x = some last := by simp [lastOr, behind]
  rw [List.append_assoc, spellsAnywhere_of_not_mem hx, reached, List.cons_append, marks_pass passed,
    spellsAnywhere_of_not_mem hy]
  simp only [lastOr_append, lastOr_cons, List.nil_append]

/-! ## Tags -/

structure IsTagName (name : List Char) : Prop where
  ne_nil : name ≠ []
  first : ∀ c ∈ name.head?, c.isAlpha = true
  continues : ∀ c ∈ name, continuesTagName c = true

instance (name : List Char) : Decidable (IsTagName name) :=
  decidable_of_iff (name ≠ [] ∧ (∀ c ∈ name.head?, c.isAlpha = true) ∧
      ∀ c ∈ name, continuesTagName c = true)
    ⟨fun ⟨ne, first, continues⟩ => ⟨ne, first, continues⟩, fun h =>
      ⟨h.ne_nil, h.first, h.continues⟩⟩

/-- What can stand in a tag behind the name: it holds no brackets, the name does not go on in it and
gets no value in it, and it does not end like an arrow. -/
structure IsTagTail (tail : List Char) : Prop where
  free : ∀ c ∈ tail, c ≠ '<' ∧ c ≠ '>'
  parted : ∀ c ∈ tail.head?, continuesTagName c = false
  unassigned : isAssigned tail = false
  last : tail.getLast? ≠ some '='

instance (tail : List Char) : Decidable (IsTagTail tail) :=
  decidable_of_iff ((∀ c ∈ tail, c ≠ '<' ∧ c ≠ '>') ∧
      (∀ c ∈ tail.head?, continuesTagName c = false) ∧ isAssigned tail = false ∧
      tail.getLast? ≠ some '=')
    ⟨fun ⟨free, parted, unassigned, last⟩ => ⟨free, parted, unassigned, last⟩,
      fun h => ⟨h.free, h.parted, h.unassigned, h.last⟩⟩

theorem tagName?_append (hn : IsTagName name) {rest : List Char}
    (hr : ∀ c ∈ rest.head?, continuesTagName c = false) : tagName? (name ++ rest) = some name := by
  obtain ⟨ne, first, continues⟩ := hn
  cases name with
  | nil => exact absurd rfl ne
  | cons c name =>
    have all : ∀ d ∈ name, continuesTagName d = true := fun d hd => continues d (by simp [hd])
    have taken : (name ++ rest).takeWhile continuesTagName = name := by
      rw [List.takeWhile_append_of_pos all]
      cases rest with
      | nil => simp
      | cons d rest => simp [hr d rfl]
    rw [List.cons_append, tagName?, if_pos (first c rfl), taken]

theorem closesItself_append {before : Char} (free : ∀ c ∈ tail, c ≠ '>')
    (arrow : tail.getLast?.getD before ≠ '=') (rest : List Char) :
    closesItself before (tail ++ '>' :: rest) = (tail.getLast?.getD before == '/') := by
  induction tail generalizing before with
  | nil =>
    have hb : (before == '=') = false := beq_false_of_ne arrow
    simp [closesItself, hb]
  | cons c tail ih =>
    have hc : (c == '>') = false := beq_false_of_ne (free c (by simp))
    have last : (c :: tail).getLast?.getD before = tail.getLast?.getD c := by
      simp [List.getLast?_cons]
    rw [last] at arrow ⊢
    rw [List.cons_append, closesItself, hc, if_neg Bool.false_ne_true]
    exact ih (fun d hd => free d (by simp [hd])) arrow

def openingTag (name tail : List Char) : Tag := ⟨false, name, .start, tail.getLast? == some '/'⟩

def closingTag (name : List Char) : Tag := ⟨true, name, .start, false⟩

theorem shown_opening (hn : IsTagName name) (ht : IsTagTail tail) :
    Shown bareTags ('<' :: name ++ tail ++ ['>']) [openingTag name tail] := by
  intro before rest opens
  have opened : (before.map allowsTag).getD true = true := by
    cases before with
    | none => rfl
    | some c => exact opens c rfl
  have named : tagName? (name ++ (tail ++ '>' :: rest)) = some name := by
    refine tagName?_append hn fun c hc => ?_
    cases tail with
    | nil => cases hc; decide
    | cons d tail => exact ht.parted c hc
  have slash : (tail.getLast?.getD '<' == '/') = (tail.getLast? == some '/') := by
    cases tail.getLast? <;> rfl
  have closes : closesItself '<' (tail ++ '>' :: rest) = (tail.getLast? == some '/') := by
    refine (closesItself_append (fun c hc => (ht.free c hc).2) ?_ rest).trans slash
    cases h : tail.getLast? with
    | none => decide
    | some c => exact fun hc => ht.last (by rw [h]; exact congrArg some hc)
  have found : tagAt? before .start ('<' :: name ++ (tail ++ '>' :: rest)) =
      some (openingTag name tail, name.length + 1) := by
    simp [tagAt?, opened, named, closes, openingTag]
  have behind : '<' ∉ tail ++ ['>'] := by
    simpa using fun h => (ht.free '<' h).1 rfl
  have split : '<' :: name ++ tail ++ ['>'] ++ rest = '<' :: name ++ (tail ++ '>' :: rest) := by
    simp
  have last : lastOr before ('<' :: name ++ tail ++ ['>']) =
      lastOr (lastOr (some '<') name) (tail ++ ['>']) := by
    simp only [List.cons_append, List.append_assoc, lastOr_cons, lastOr_append]
  rw [split, bareTags_take found, last, List.append_cons tail, shown_of_not_mem behind]
  rfl

theorem shown_closing (hn : IsTagName name) :
    ShownAnywhere bareTags ("</".toList ++ name ++ ['>']) [closingTag name] := by
  intro before rest
  have named : tagName? (name ++ '>' :: rest) = some name :=
    tagName?_append hn fun c hc => by cases hc; decide
  have found : tagAt? before .start ('<' :: ('/' :: name) ++ '>' :: rest) =
      some (closingTag name, ('/' :: name).length + 1) := by
    have slash : tagName? ('/' :: (name ++ '>' :: rest)) = none := rfl
    simp [tagAt?, named, slash, closingTag]
  have behind : '<' ∉ ['>'] := by decide
  have split : "</".toList ++ name ++ ['>'] ++ rest = '<' :: ('/' :: name) ++ '>' :: rest := by simp
  have last : lastOr before ("</".toList ++ name ++ ['>']) =
      lastOr (lastOr (some '<') ('/' :: name)) ['>'] := by
    simp [lastOr_append, lastOr_cons]
  rw [split, bareTags_take found, last, ← List.singleton_append (l := rest),
    shown_of_not_mem behind]
  rfl

def openingMarks (jsx : Bool) (name tail : List Char) : List Mark :=
  if tail.getLast? == some '/' || (!jsx && isVoid name) then [] else [⟨false, name⟩]

theorem marksOf_openingTag (jsx : Bool) (name tail : List Char) :
    marksOf jsx [openingTag name tail] = openingMarks jsx name tail := by
  unfold marksOf openingMarks openingTag
  rw [List.filter_singleton, Tag.counts]
  cases tail.getLast? == some '/' <;> cases !jsx && isVoid name <;> rfl

theorem spells_opening (hn : IsTagName name) (ht : IsTagTail tail) :
    Spells jsx ('<' :: name ++ tail ++ ['>']) (openingMarks jsx name tail) :=
  marksOf_openingTag jsx name tail ▸ spells_of_shown (shown_opening hn ht)

theorem spellsAnywhere_closing (hn : IsTagName name) :
    SpellsAnywhere jsx ("</".toList ++ name ++ ['>']) [⟨true, name⟩] :=
  spellsAnywhere_of_shown (shown_closing hn)

/-! ## Lines -/

inductive SpellsLines (jsx : Bool) : List String → List Mark → Prop
  | nil : SpellsLines jsx [] []
  | cons {line : String} {lines : List String} {m n : List Mark} :
    Spells jsx line.toList m → SpellsLines jsx lines n → SpellsLines jsx (line :: lines) (m ++ n)

theorem SpellsLines.append {a b : List String} (ha : SpellsLines jsx a m)
    (hb : SpellsLines jsx b n) : SpellsLines jsx (a ++ b) (m ++ n) := by
  induction ha with
  | nil => exact hb
  | cons line _ ih =>
    rw [List.append_assoc]
    exact .cons line ih

theorem spellsLines_singleton {line : String} (h : Spells jsx line.toList m) :
    SpellsLines jsx [line] m := by
  simpa using SpellsLines.cons h .nil

theorem spellsLines_of_not_mem {lines : List String} (h : ∀ line ∈ lines, '<' ∉ line.toList) :
    SpellsLines jsx lines [] := by
  induction lines with
  | nil => exact .nil
  | cons line lines ih =>
    obtain ⟨first, others⟩ := List.forall_mem_cons.mp h
    exact .cons (spellsAnywhere_of_not_mem first).spells (ih others)

theorem SpellsLines.intercalate {lines : List String} (h : SpellsLines jsx lines m)
    {separator : String} (free : '<' ∉ separator.toList) (ne : separator.toList ≠ [])
    (opens : Opens separator.toList.getLast?) :
    Spells jsx (separator.intercalate lines).toList m := by
  induction h with
  | nil => simpa using spells_nil
  | @cons line lines m n first others ih =>
    rcases eq_or_ne lines [] with rfl | hl
    · cases others
      simpa using first
    · rw [String.intercalate_cons_of_ne_nil hl, String.toList_append, String.toList_append]
      have led := first.append_anywhere (spellsAnywhere_of_not_mem free)
      rw [List.append_nil] at led
      refine led.append ih (by simp [ne]) ?_
      rwa [List.getLast?_append, Option.or_of_isSome (by simpa using ne)]

end Handoff.Markup
