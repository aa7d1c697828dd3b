import Handoff.Proofs.Markup.Normal
import Handoff.Markup.Tag

/-! # Texts without plain names

Code in JSX is clean if no attribute in it has one of the two plain names that are looked for. Clean
texts may be put together wherever no such name can reach over the seam, and what is written in the
dialect of JSX is clean.
-/

namespace Handoff.Markup

open Text

def startsPlain (text : List Char) : Bool :=
  "class=".toList.isPrefixOf text || "for=".toList.isPrefixOf text

def isClean (before : Option Char) : List Char → Bool
  | [] => true
  | c :: rest => !(canStartName before && startsPlain (c :: rest)) && isClean (some c) rest

def Clean (text : List Char) : Prop := isClean none text = true

instance (text : List Char) : Decidable (Clean text) := inferInstanceAs (Decidable (_ = true))

/-- A character that occurs neither in a plain name nor behind it. -/
def IsSeam (c : Char) : Prop := c ∉ "class=".toList ++ "for=".toList

instance (c : Char) : Decidable (IsSeam c) := inferInstanceAs (Decidable (¬ _))

variable {before : Option Char} {place : Position} {text x y : List Char} {c : Char}

theorem plainNamesFrom_eq_nil_iff :
    plainNamesFrom before place text = [] ↔ isClean before text = true := by
  induction text generalizing before place with
  | nil => simp [plainNamesFrom, isClean]
  | cons c rest ih =>
    simp only [plainNamesFrom, isClean, startsPlain, List.append_eq_nil_iff, ih, Bool.and_eq_true]
    refine and_congr_left fun _ => ?_
    cases canStartName before <;> cases "class=".toList.isPrefixOf (c :: rest) <;>
      cases "for=".toList.isPrefixOf (c :: rest) <;> simp

theorem isClean_congr (h : canStartName before = true) :
    isClean before text = isClean none text := by
  cases text with
  | nil => rfl
  | cons c rest =>
    have first : canStartName none = true := rfl
    rw [isClean, isClean, h, first]

theorem Clean.isClean (h : Clean text) (before : Option Char) : isClean before text = true := by
  cases hb : canStartName before with
  | true => exact (isClean_congr hb).trans h
  | false =>
    cases text with
    | nil => rfl
    | cons c rest =>
      simp only [Clean, Markup.isClean, Bool.and_eq_true] at h
      simp [Markup.isClean, hb, h.2]

/-! ## Putting texts together -/

theorem startsPlain_of_append (h : startsPlain x = true) (y : List Char) :
    startsPlain (x ++ y) = true := by
  simp only [startsPlain, Bool.or_eq_true, List.isPrefixOf_iff_prefix] at h ⊢
  exact h.imp (fun h => h.trans (List.prefix_append x y)) fun h => h.trans (List.prefix_append x y)

theorem startsPlain_seam (h : IsSeam c) (rest : List Char) : startsPlain (c :: rest) = false := by
  have apart : c ≠ 'c' ∧ c ≠ 'f' :=
    ⟨fun he => h (by rw [he]; decide), fun he => h (by rw [he]; decide)⟩
  simp [startsPlain, List.isPrefixOf_cons_cons, apart.1.symm, apart.2.symm]

theorem startsPlain_append (ne : x ≠ [])
    (seam : (∀ c ∈ x.getLast?, IsSeam c) ∨ ∀ c ∈ y.head?, IsSeam c)
    (h : startsPlain (x ++ y) = true) : startsPlain x = true := by
  have within {word : List Char} (hw : ∀ c, IsSeam c → c ∉ word) (h : word <+: x ++ y) :
      word <+: x := by
    rcases List.prefix_or_prefix_of_prefix h (List.prefix_append x y) with h' | ⟨v, rfl⟩
    · exact h'
    · have hv : v <+: y := (List.prefix_append_right_inj x).mp h
      cases v with
      | nil => simp
      | cons d v =>
        exfalso
        obtain ⟨z, rfl⟩ := hv
        rcases seam with last | first
        · have hl := List.getLast?_eq_some_getLast ne
          exact hw _ (last _ hl) (List.mem_append_left _ (List.getLast_mem ne))
        · exact hw d (first d rfl) (by simp)
  simp only [startsPlain, Bool.or_eq_true, List.isPrefixOf_iff_prefix] at h ⊢
  refine h.imp (within fun c hc hm => hc ?_) (within fun c hc hm => hc ?_)
  · exact List.mem_append_left _ hm
  · exact List.mem_append_right _ hm

theorem isClean_append (hx : isClean before x = true) (hy : isClean (lastOr before x) y = true)
    (seam : (∀ c ∈ x.getLast?, IsSeam c) ∨ ∀ c ∈ y.head?, IsSeam c) :
    isClean before (x ++ y) = true := by
  induction x generalizing before with
  | nil => exact hy
  | cons c x ih =>
    simp only [isClean, Bool.and_eq_true, Bool.not_eq_true'] at hx
    rw [lastOr_cons] at hy
    have later : (∀ c ∈ x.getLast?, IsSeam c) ∨ ∀ c ∈ y.head?, IsSeam c := by
      refine seam.imp_left fun h d hd => h d ?_
      rw [Option.mem_def] at hd ⊢
      simp [List.getLast?_cons, hd]
    rw [List.cons_append, isClean, ih hx.2 hy later, Bool.and_true, Bool.not_eq_true']
    cases hb : canStartName before with
    | false => rfl
    | true =>
      rw [hb, Bool.true_and] at hx
      rw [Bool.true_and]
      exact eq_false_of_ne_true fun h =>
        ne_true_of_eq_false hx.1 (startsPlain_append (by simp) seam h)

theorem Clean.append (hx : Clean x) (hy : Clean y)
    (seam : (∀ c ∈ x.getLast?, IsSeam c) ∨ ∀ c ∈ y.head?, IsSeam c) : Clean (x ++ y) :=
  isClean_append hx (hy.isClean _) seam

theorem isClean_of_append (h : isClean before (x ++ y) = true) :
    isClean before x = true ∧ isClean (lastOr before x) y = true := by
  induction x generalizing before with
  | nil => exact ⟨rfl, h⟩
  | cons c x ih =>
    rw [List.cons_append, isClean, Bool.and_eq_true, Bool.not_eq_true'] at h
    obtain ⟨hx, hy⟩ := ih h.2
    rw [lastOr_cons, isClean, hx, Bool.and_true, Bool.not_eq_true']
    refine ⟨?_, hy⟩
    cases hb : canStartName before with
    | false => rfl
    | true =>
      rw [hb, Bool.true_and] at h
      rw [Bool.true_and]
      exact eq_false_of_ne_true fun hs =>
        ne_true_of_eq_false h.1 (startsPlain_of_append hs y)

theorem Clean.left (h : Clean (x ++ y)) : Clean x := (isClean_of_append h).1

/-- What follows a character behind which a name can start is clean by itself. -/
theorem Clean.right (h : Clean (x ++ y)) (free : ∀ c ∈ x.getLast?, continuesName c = false) :
    Clean y := by
  have start : canStartName (lastOr none x) = true := by
    cases hl : x.getLast? with
    | none => simp [lastOr, hl, canStartName]
    | some c => simp [lastOr, hl, canStartName, free c hl]
  exact (isClean_congr start).symm.trans (isClean_of_append h).2

theorem clean_of_not_mem (h : '=' ∉ text) : Clean text := by
  suffices all : ∀ before, isClean before text = true from all none
  induction text with
  | nil => exact fun _ => rfl
  | cons c rest ih =>
    intro before
    have plain : startsPlain (c :: rest) = false := by
      refine eq_false_of_ne_true fun hs => h ?_
      simp only [startsPlain, Bool.or_eq_true, List.isPrefixOf_iff_prefix] at hs
      exact hs.elim (fun hp => hp.subset (by decide)) fun hp => hp.subset (by decide)
    rw [isClean, plain, Bool.and_false, ih fun hm => h (List.mem_cons_of_mem c hm)]
    rfl

theorem Clean.cut (h : Clean (x ++ c :: y)) (seam : IsSeam c) (apart : continuesName c = false) :
    Clean (c :: y) := by
  have first : Clean [c] :=
    clean_of_not_mem (by simpa using fun he => seam (by simp [← he]))
  have behind : Clean y := by
    refine Clean.right (x := x ++ [c]) (by simpa using h) ?_
    simpa using apart
  exact first.append behind (.inl (by simpa using seam))

theorem Clean.trim (h : Clean text) : Clean (trim text) := by
  have behind : Clean (text.dropWhile isSpace) := by
    rw [← List.takeWhile_append_dropWhile (p := isSpace) (l := text)] at h
    refine h.right fun c hc => ?_
    have space := List.mem_takeWhile_imp (List.mem_of_getLast? hc)
    exact eq_false_of_ne_true fun hn => ne_true_of_eq_false (isSpace_of_continues hn) space
  rw [Text.trim, trimBoth_eq]
  obtain ⟨rest, he⟩ := List.rdropWhile_prefix isSpace (text.dropWhile isSpace)
  exact Clean.left (he ▸ behind)

/-! ## The dialect of JSX -/

theorem hasAttribute_of_prefixed {front name : List Char}
    (start : canStartName (lastOr none front) = true)
    (h : name ++ ['='] <+: text) : HasAttribute name (front ++ text) := by
  obtain ⟨rest, rfl⟩ := h
  refine ⟨front, '=' :: rest, by simp, fun c hc => ?_, rfl⟩
  simpa [lastOr, Option.mem_def.mp hc, canStartName] using start

theorem hasAttribute_of_not_isClean (front : List Char)
    (h : isClean (lastOr none front) text = false) :
    HasAttribute "class".toList (front ++ text) ∨ HasAttribute "for".toList (front ++ text) := by
  induction text generalizing front with
  | nil => cases h
  | cons c rest ih =>
    rw [isClean, Bool.and_eq_false_iff, Bool.not_eq_false', Bool.and_eq_true] at h
    rcases h with ⟨start, plain⟩ | later
    · simp only [startsPlain, Bool.or_eq_true, List.isPrefixOf_iff_prefix] at plain
      exact plain.imp (hasAttribute_of_prefixed start) (hasAttribute_of_prefixed start)
    · have last : lastOr none (front ++ [c]) = some c := by simp [lastOr]
      simpa using ih (front ++ [c]) (last ▸ later)

theorem clean_of_not_hasAttribute (classes : ¬ HasAttribute "class".toList text)
    (labels : ¬ HasAttribute "for".toList text) : Clean text := by
  by_contra h
  rcases hasAttribute_of_not_isClean [] (eq_false_of_ne_true h) with found | found
  · exact classes found
  · exact labels found

theorem clean_toJsxNames (text : List Char) : Clean (toJsxNames text) := by
  have classes : (⟨"class", "className"⟩ : AttributeName) ∈ attributeNames := by
    simp [attributeNames]
  have labels : (⟨"for", "htmlFor"⟩ : AttributeName) ∈ attributeNames := by simp [attributeNames]
  exact clean_of_not_hasAttribute (not_hasAttribute_toJsxNames classes text)
    (not_hasAttribute_toJsxNames labels text)

end Handoff.Markup
