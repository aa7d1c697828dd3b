import Handoff.Proofs.Markup.Block
import Handoff.Proofs.Markup.Name

/-! # The normal form

Both dialects are maps of assigned names, and the names of one are none of the other. Neither a
renaming nor the root around a text brings the parts of a block together, so the normal form of a
text is canonical and has itself as its normal form.
-/

namespace Handoff.Markup

open Text

/-! ## Dialects -/

/-- The image of a name under renamings that are made one after another. -/
def imageOf (pairs : List (List Char × List Char)) (name : List Char) : List Char :=
  pairs.foldl (fun name pair => swapName pair.1 pair.2 name) name

def jsxPairs : List (List Char × List Char) :=
  attributeNames.map fun name => (name.plain.toList, name.jsx.toList)

def plainPairs : List (List Char × List Char) :=
  attributeNames.map fun name => (name.jsx.toList, name.plain.toList)

variable {pairs : List (List Char × List Char)} {name text : List Char}

theorem keepsNames_swapName {source target : List Char} (h : IsName target) :
    KeepsNames (swapName source target) := by
  intro name hn
  unfold swapName
  split
  · exact h
  · exact hn

theorem keepsNames_imageOf (h : ∀ pair ∈ pairs, IsName pair.2) : KeepsNames (imageOf pairs) := by
  intro name hn
  induction pairs generalizing name with
  | nil => exact hn
  | cons pair pairs ih =>
    exact ih (fun p hp => h p (by simp [hp])) _ (keepsNames_swapName (h pair (by simp)) name hn)

theorem imageOf_of_not_mem (h : ∀ pair ∈ pairs, name ≠ pair.1) : imageOf pairs name = name := by
  induction pairs with
  | nil => rfl
  | cons pair pairs ih =>
    rw [imageOf, List.foldl_cons, swapName, if_neg (h pair (by simp))]
    exact ih fun p hp => h p (by simp [hp])

theorem foldl_rename (h : ∀ pair ∈ pairs, IsName pair.1 ∧ IsName pair.2) (text : List Char) :
    pairs.foldl (fun text pair => rename pair.1 pair.2 text) text =
      mapNames (imageOf pairs) text := by
  induction pairs generalizing text with
  | nil => exact (mapNames_eq_self fun _ _ => rfl).symm
  | cons pair pairs ih =>
    obtain ⟨hs, ht⟩ := h pair (by simp)
    rw [List.foldl_cons, rename_eq_mapNames hs, ih fun p hp => h p (by simp [hp]),
      mapNames_mapNames (keepsNames_swapName ht)]
    rfl

instance (name : List Char) : Decidable (IsName name) :=
  decidable_of_iff (name ≠ [] ∧ ∀ c ∈ name, continuesName c = true)
    ⟨fun ⟨ne, h⟩ => ⟨ne, h⟩, fun ⟨ne, h⟩ => ⟨ne, h⟩⟩

theorem isName_jsxPairs : ∀ pair ∈ jsxPairs, IsName pair.1 ∧ IsName pair.2 := by decide +kernel

theorem toJsxNames_eq (text : List Char) : toJsxNames text = mapNames (imageOf jsxPairs) text := by
  rw [← foldl_rename isName_jsxPairs, jsxPairs, List.foldl_map]
  rfl

theorem keepsNames_jsx : KeepsNames (imageOf jsxPairs) :=
  keepsNames_imageOf fun pair hp => (isName_jsxPairs pair hp).2

theorem isName_plainPairs : ∀ pair ∈ plainPairs, IsName pair.1 ∧ IsName pair.2 := by
  decide +kernel

theorem toPlainNames_eq (text : List Char) :
    toPlainNames text = mapNames (imageOf plainPairs) text := by
  rw [← foldl_rename isName_plainPairs, plainPairs, List.foldl_map]
  rfl

theorem keepsNames_plain : KeepsNames (imageOf plainPairs) :=
  keepsNames_imageOf fun pair hp => (isName_plainPairs pair hp).2

/-- A name either is given up for another or stays as it is, if no name is changed twice. -/
theorem imageOf_cases (once : ∀ pair ∈ pairs, imageOf pairs pair.1 = pair.2) (name : List Char) :
    (∃ pair ∈ pairs, name = pair.1 ∧ imageOf pairs name = pair.2) ∨
      (∀ pair ∈ pairs, name ≠ pair.1) ∧ imageOf pairs name = name := by
  by_cases h : ∃ pair ∈ pairs, name = pair.1
  · obtain ⟨pair, hp, rfl⟩ := h
    exact Or.inl ⟨pair, hp, rfl, once pair hp⟩
  · push Not at h
    exact Or.inr ⟨h, imageOf_of_not_mem h⟩

/-- A name either is plain, and then becomes its name in JSX, or stays as it is. -/
theorem imageOf_jsxPairs_cases (name : List Char) :
    (∃ pair ∈ jsxPairs, name = pair.1 ∧ imageOf jsxPairs name = pair.2) ∨
      (∀ pair ∈ jsxPairs, name ≠ pair.1) ∧ imageOf jsxPairs name = name :=
  imageOf_cases (by decide +kernel) name

/-- A name either is one of JSX, and then becomes its plain name, or stays as it is. -/
theorem imageOf_plainPairs_cases (name : List Char) :
    (∃ pair ∈ plainPairs, name = pair.1 ∧ imageOf plainPairs name = pair.2) ∨
      (∀ pair ∈ plainPairs, name ≠ pair.1) ∧ imageOf plainPairs name = name :=
  imageOf_cases (by decide +kernel) name

theorem imageOf_jsxPairs_ne (name : List Char) :
    ∀ pair ∈ jsxPairs, imageOf jsxPairs name ≠ pair.1 := by
  rcases imageOf_jsxPairs_cases name with ⟨image, hi, -, he⟩ | ⟨hn, he⟩
  · have apart : ∀ image ∈ jsxPairs, ∀ pair ∈ jsxPairs, image.2 ≠ pair.1 := by decide +kernel
    rw [he]
    exact apart image hi
  · rw [he]
    exact hn

theorem toJsxNames_toJsxNames (text : List Char) :
    toJsxNames (toJsxNames text) = toJsxNames text := by
  rw [toJsxNames_eq (toJsxNames text)]
  refine mapNames_eq_self fun name hn => ?_
  rw [toJsxNames_eq, assignedNames_mapNames keepsNames_jsx] at hn
  obtain ⟨source, -, rfl⟩ := List.mem_map.mp hn
  exact imageOf_of_not_mem (imageOf_jsxPairs_ne source)

/-- A name stands in a text as that of an attribute: no longer name ends in it, and an equals sign
follows, perhaps behind spaces. -/
def HasAttribute (name text : List Char) : Prop :=
  ∃ before after, text = before ++ name ++ after ∧
    (∀ c ∈ before.getLast?, continuesName c = false) ∧ isAssigned after = true

theorem mem_assignedNames_of_hasAttribute (hn : IsName name) (h : HasAttribute name text) :
    name ∈ assignedNames text := by
  obtain ⟨before, after, he, hb, ha⟩ := h
  induction text using run_induction generalizing before with
  | nil => simp_all [hn.ne_nil]
  | cons c rest hc ih =>
    rw [assignedNames_cons hc]
    cases before with
    | nil =>
      obtain ⟨d, tail, rfl⟩ := List.exists_cons_of_ne_nil hn.ne_nil
      have hd := hn.continues d (by simp)
      obtain rfl : c = d := by simpa using congrArg List.head? he
      simp [hd] at hc
    | cons d before =>
      simp only [List.cons_append, List.cons.injEq] at he
      refine ih before he.2 fun e hl => hb e ?_
      rw [Option.mem_def] at hl ⊢
      simp [List.getLast?_cons, hl]
  | run run rest hr hp ih =>
    rw [assignedNames_run hr hp, List.mem_append]
    rw [List.append_assoc, List.append_eq_append_iff] at he
    -- what stands before the name cannot end inside the run, since it does not end in a name
    rcases he with ⟨w, rfl, he⟩ | ⟨w, he, hw⟩
    · cases w with
      | nil =>
        obtain ⟨c, hc⟩ := List.getLast?_isSome.mpr hr.ne_nil |> Option.isSome_iff_exists.mp
        have := hb c (by simpa using hc)
        simp [hr.continues c (List.mem_of_getLast? hc)] at this
      | cons d w => exact Or.inr (ih (d :: w) (by simpa using he) fun e hl => hb e (by simp_all))
    · cases before with
      | nil =>
        obtain rfl : run = w := he
        obtain ⟨rfl, rfl⟩ := run_unique hn hr (parted_of_isAssigned ha) hp hw
        exact Or.inl (by simp [ha])
      | cons d before =>
        have ne : d :: before ≠ [] := by simp
        have hl := List.getLast?_eq_some_getLast ne
        have := hb _ hl
        rw [hr.continues _ (he ▸ List.mem_append_left _ (List.getLast_mem ne))] at this
        cases this

theorem not_hasAttribute_toJsxNames {entry : AttributeName} (h : entry ∈ attributeNames)
    (text : List Char) : ¬ HasAttribute entry.plain.toList (toJsxNames text) := by
  have hp : (entry.plain.toList, entry.jsx.toList) ∈ jsxPairs := List.mem_map_of_mem h
  intro found
  have hm := mem_assignedNames_of_hasAttribute (isName_jsxPairs _ hp).1 found
  rw [toJsxNames_eq, assignedNames_mapNames keepsNames_jsx] at hm
  obtain ⟨source, -, hs⟩ := List.mem_map.mp hm
  exact imageOf_jsxPairs_ne source _ hp hs

/-! ## Blocks -/

section Blocks

variable {front word rest piece before after : List Char}

/-- A piece stands on one side of a word in the middle of a text, if it can neither start nor end
inside the word nor stand in it as a whole. -/
theorem piece_beside_word (ne : word ≠ []) (first : ∀ c ∈ word.head?, c ∉ piece)
    (last : ∀ c ∈ word.getLast?, c ∉ piece) (sticks : ∃ c ∈ piece, c ∉ word)
    (h : front ++ word ++ rest = before ++ piece ++ after) :
    (∃ w, front = before ++ piece ++ w ∧ after = w ++ word ++ rest) ∨
      ∃ w, before = front ++ word ++ w ∧ rest = w ++ piece ++ after := by
  rw [List.append_assoc, List.append_assoc, List.append_eq_append_iff] at h
  rcases h with ⟨w, rfl, h⟩ | ⟨w, rfl, h⟩
  · rcases List.append_eq_append_iff.mp h with ⟨v, rfl, rfl⟩ | ⟨v, rfl, hr⟩
    · exact Or.inr ⟨v, by simp, by simp⟩
    · rcases eq_or_ne v [] with rfl | nonempty
      · exact Or.inr ⟨[], by simp, by simpa using hr.symm⟩
      · exfalso
        rcases List.append_eq_append_iff.mp hr with ⟨u, rfl, -⟩ | ⟨u, rfl, -⟩
        · obtain ⟨c, hc, outside⟩ := sticks
          exact outside (by simp [hc])
        · have hl := List.getLast?_eq_some_getLast nonempty
          refine last (v.getLast nonempty) ?_ (List.mem_append_left _ (List.getLast_mem nonempty))
          rw [List.getLast?_append, hl]
          rfl
  · rcases List.append_eq_append_iff.mp h with ⟨v, rfl, rfl⟩ | ⟨v, rfl, hr⟩
    · exact Or.inl ⟨v, by simp, by simp⟩
    · cases v with
      | nil => exact Or.inl ⟨[], by simp, by simpa using hr.symm⟩
      | cons c v =>
        obtain ⟨d, word, rfl⟩ := List.exists_cons_of_ne_nil ne
        obtain ⟨rfl, -⟩ := List.cons.inj hr
        exact absurd (by simp) (first d rfl)

/-- A name that starts and ends in a letter, and does not start like `xml`. -/
structure IsPlainWord (word : List Char) : Prop extends IsName word where
  first : ∀ c ∈ word.head?, c.isAlpha = true
  last : ∀ c ∈ word.getLast?, c.isAlpha = true
  start : word.head? ≠ some 'x'

instance (word : List Char) : Decidable (IsPlainWord word) :=
  decidable_of_iff (IsName word ∧ (∀ c ∈ word.head?, c.isAlpha = true) ∧
      (∀ c ∈ word.getLast?, c.isAlpha = true) ∧ word.head? ≠ some 'x')
    ⟨fun ⟨name, first, last, start⟩ => ⟨name, first, last, start⟩,
      fun h => ⟨h.toIsName, h.first, h.last, h.start⟩⟩

/-- A piece without letters that holds more than characters of names stands on one side of such a
word. -/
theorem IsPlainWord.piece_beside (hw : IsPlainWord word) (piece : List Char)
    (letters : ∀ c ∈ piece, c.isAlpha = false) (sticks : ∃ c ∈ piece, continuesName c = false)
    (h : front ++ word ++ rest = before ++ piece ++ after) :
    (∃ w, front = before ++ piece ++ w ∧ after = w ++ word ++ rest) ∨
      ∃ w, before = front ++ word ++ w ∧ rest = w ++ piece ++ after := by
  obtain ⟨c, hc, outside⟩ := sticks
  refine piece_beside_word hw.ne_nil (fun d hd hm => ?_) (fun d hd hm => ?_)
    ⟨c, hc, fun hm => ne_true_of_eq_false outside (hw.continues c hm)⟩ h
  · exact ne_true_of_eq_false (letters d hm) (hw.first d hd)
  · exact ne_true_of_eq_false (letters d hm) (hw.last d hd)

theorem hasComment_of_word (hw : IsPlainWord word) (name : List Char)
    (h : HasComment (front ++ word ++ rest)) : HasComment (front ++ name ++ rest) := by
  obtain ⟨before, body, after, he⟩ := h
  rcases hw.piece_beside "<!--".toList (by decide) (by decide)
    (by simpa only [List.append_assoc] using he) with ⟨w, rfl, hr⟩ | ⟨w, rfl, rfl⟩
  · rcases hw.piece_beside "-->".toList (by decide) (by decide)
      (by simpa only [List.append_assoc] using hr.symm) with ⟨v, rfl, rfl⟩ | ⟨v, rfl, rfl⟩
    · exact ⟨before, body, v ++ name ++ rest, by simp⟩
    · exact ⟨before, w ++ name ++ v, after, by simp⟩
  · exact ⟨front ++ name ++ w, body, after, by simp⟩

/-- Neither does it bring a declaration about, since no word goes on behind what stands before. -/
theorem hasDeclaration_of_word (hw : IsPlainWord word) (hn : IsName name)
    (hf : ∀ c ∈ front.getLast?, continuesName c = false)
    (h : HasDeclaration (front ++ word ++ rest)) : HasDeclaration (front ++ name ++ rest) := by
  obtain ⟨before, body, after, hb, he⟩ := h
  have split : "<?xml".toList = "<?".toList ++ "xml".toList := rfl
  rw [split] at he
  rcases hw.piece_beside "<?".toList (by decide) (by decide)
    (by simpa only [List.append_assoc] using he) with ⟨w, rfl, hr⟩ | ⟨w, rfl, rfl⟩
  · -- the letters behind the mark belong to what stands before the word
    have inside : ∃ v, w = "xml".toList ++ v := by
      simp only [List.append_assoc] at hr
      rcases List.append_eq_append_iff.mp hr with ⟨v, hw', -⟩ | ⟨v, hx, hv⟩
      · exact ⟨v, hw'⟩
      · cases w with
        | nil =>
          obtain ⟨c, word, rfl⟩ := List.exists_cons_of_ne_nil hw.ne_nil
          obtain rfl : v = "xml".toList := hx.symm
          exact absurd (by simpa using congrArg List.head? hv) hw.start
        | cons d w =>
          have ne : d :: w ≠ [] := by simp
          have hl := hf ((d :: w).getLast ne)
            (by rw [List.getLast?_append, List.getLast?_eq_some_getLast ne]; rfl)
          have hm : (d :: w).getLast ne ∈ "xml".toList :=
            hx ▸ List.mem_append_left _ (List.getLast_mem ne)
          have all : ∀ c ∈ "xml".toList, continuesName c = true := by decide
          rw [all _ hm] at hl
          cases hl
    obtain ⟨w, rfl⟩ := inside
    simp only [List.append_assoc, List.append_cancel_left_eq] at hr
    rcases hw.piece_beside "?>".toList (by decide) (by decide)
      (by simpa only [List.append_assoc] using hr.symm) with ⟨v, rfl, rfl⟩ | ⟨v, rfl, rfl⟩
    · exact ⟨before, body, v ++ name ++ rest, hb, by simp⟩
    · refine ⟨before, w ++ name ++ v, after, ?_, by simp⟩
      have hm : '>' ∉ name := fun hm => absurd (hn.continues _ hm) (by decide)
      simp_all
  · exact ⟨front ++ name ++ w, body, after, hb, by simp⟩

theorem hasBlock_of_word (hw : IsPlainWord word) (hn : IsName name)
    (hf : ∀ c ∈ front.getLast?, continuesName c = false)
    (h : HasBlock (front ++ word ++ rest)) : HasBlock (front ++ name ++ rest) :=
  h.imp (hasDeclaration_of_word hw hn hf) (hasComment_of_word hw name)

theorem hasBlock_of_mapNames {f : List Char → List Char}
    (hf : ∀ name, f name = name ∨ IsPlainWord (f name)) (front text : List Char)
    (hp : (∀ c ∈ front.getLast?, continuesName c = false) ∨ Parted text)
    (h : HasBlock (front ++ mapNames f text)) : HasBlock (front ++ text) := by
  induction text using run_induction generalizing front with
  | nil => simpa using h
  | cons c rest hc ih =>
    rw [mapNames_cons f hc] at h
    have := ih (front ++ [c]) (Or.inl (by simp [hc])) (by simpa using h)
    simpa using this
  | run name rest hn hr ih =>
    have hl : ∀ c ∈ front.getLast?, continuesName c = false := by
      rcases hp with hp | hp
      · exact hp
      · obtain ⟨c, tail, rfl⟩ := List.exists_cons_of_ne_nil hn.ne_nil
        exact absurd (hp c rfl) (by simp [hn.continues c])
    rw [mapNames_run f hn hr, ← List.append_assoc] at h
    have later := ih _ (Or.inr hr) h
    rw [← List.append_assoc]
    split at later
    case isFalse => exact later
    case isTrue =>
      rcases hf name with he | hw
      · rwa [he] at later
      · exact hasBlock_of_word hw hn hl later

theorem isPlainWord_jsx (name : List Char) :
    imageOf jsxPairs name = name ∨ IsPlainWord (imageOf jsxPairs name) := by
  rcases imageOf_jsxPairs_cases name with ⟨pair, hp, -, he⟩ | ⟨-, he⟩
  · have all : ∀ pair ∈ jsxPairs, IsPlainWord pair.2 := by decide +kernel
    exact Or.inr (he ▸ all pair hp)
  · exact Or.inl he

theorem not_hasBlock_toJsxNames (h : ¬ HasBlock text) : ¬ HasBlock (toJsxNames text) := by
  rw [toJsxNames_eq]
  exact fun hb => h (hasBlock_of_mapNames isPlainWord_jsx [] text (Or.inl (by simp)) hb)

theorem HasBlock.append (h : HasBlock text) (front rest : List Char) :
    HasBlock (front ++ text ++ rest) := by
  rcases h with ⟨before, body, after, hb, rfl⟩ | ⟨before, body, after, rfl⟩
  · exact Or.inl ⟨front ++ before, body, after ++ rest, hb, by simp⟩
  · exact Or.inr ⟨front ++ before, body, after ++ rest, by simp⟩

theorem not_hasBlock_trim (h : ¬ HasBlock text) : ¬ HasBlock (trim text) := by
  obtain ⟨before, after, he⟩ := trimBoth_infix isSpace text
  intro hb
  exact h (he ▸ hb.append before after)

end Blocks

/-! ## The root -/

section Root

variable {before body after : List Char}

/-- No block starts in the opening tag, not even by its last character. -/
theorem start_behind_openTag (mark : Char) (piece : List Char) (hm : mark ∉ defaultOpenTag)
    (h : defaultOpenTag ++ text = before ++ '<' :: mark :: piece ++ after) :
    ∃ w, text = w ++ '<' :: mark :: piece ++ after := by
  rw [List.append_assoc] at h
  rcases List.append_eq_append_iff.mp h with ⟨w, -, he⟩ | ⟨w, he, ht⟩
  · exact ⟨w, by rw [he, List.append_assoc]⟩
  · rcases w with _ | ⟨c, _ | ⟨d, w⟩⟩
    · exact ⟨[], by simpa using ht.symm⟩
    · obtain rfl : '<' = c := by simpa using congrArg List.head? ht
      have last : defaultOpenTag.getLast? = some '>' := by decide
      simp [he] at last
    · simp only [List.cons_append, List.cons.injEq] at ht
      exact absurd (by simp [he, ht.2.1]) hm

theorem hasBlock_of_openTag (h : HasBlock (defaultOpenTag ++ text)) : HasBlock text := by
  rcases h with ⟨before, body, after, hb, he⟩ | ⟨before, body, after, he⟩
  · obtain ⟨w, rfl⟩ := start_behind_openTag '?' "xml".toList (by decide)
      (by simpa using he)
    exact Or.inl ⟨w, body, after, hb, by simp⟩
  · obtain ⟨w, rfl⟩ := start_behind_openTag '!' "--".toList (by decide)
      (by simpa using he)
    exact Or.inr ⟨w, body, after, by simp⟩

/-- No block ends in the closing tag, not even by its first character. -/
theorem end_before_rootEnd (mark : Char) (before : List Char) (hm : mark ≠ 'g')
    (h : text ++ rootEnd = before ++ [mark, '>'] ++ after) :
    ∃ w, text = before ++ [mark, '>'] ++ w := by
  rcases List.append_eq_append_iff.mp h with ⟨w, he, ht⟩ | ⟨w, he, -⟩
  · have he := congrArg List.reverse he
    have ht := congrArg List.reverse ht
    have tag : rootEnd.reverse = ">gvs/<".toList := by decide +kernel
    simp only [List.reverse_append] at he
    rw [List.reverse_append, tag] at ht
    cases w' : w.reverse with
    | nil => exact ⟨[], by simpa [w'] using (congrArg List.reverse he).symm⟩
    | cons c w =>
      rw [w'] at he ht
      obtain ⟨rfl, hw⟩ : '>' = c ∧ mark :: before.reverse = w ++ text.reverse := by simpa using he
      -- the closing bracket is the last character of the tag, so all of the tag is taken
      cases after' : after.reverse with
      | nil =>
        rw [after'] at ht
        obtain rfl : "gvs/<".toList = w := by simpa using ht
        exact absurd (List.cons.inj hw).1 hm
      | cons d after =>
        rw [after'] at ht
        have hg : "gvs/<".toList = after ++ '>' :: w := by simpa using congrArg List.tail ht
        have hn : '>' ∉ "gvs/<".toList := by decide
        exact absurd (by simp [hg]) hn
  · exact ⟨w, he⟩

theorem hasBlock_of_rootEnd (h : HasBlock (text ++ rootEnd)) : HasBlock text := by
  rcases h with ⟨before, body, after, hb, he⟩ | ⟨before, body, after, he⟩
  · obtain ⟨w, rfl⟩ := end_before_rootEnd '?' (before ++ "<?xml".toList ++ body) (by decide)
      (by simpa using he)
    exact Or.inl ⟨before, body, w, hb, by simp⟩
  · obtain ⟨w, rfl⟩ := end_before_rootEnd '-' (before ++ "<!--".toList ++ body ++ ['-']) (by decide)
      (by simpa using he)
    exact Or.inr ⟨before, body, w, by simp⟩

theorem not_hasBlock_withRoot (h : ¬ HasBlock text) : ¬ HasBlock (withRoot text) := by
  unfold withRoot
  split
  · exact h
  · rw [List.append_assoc]
    exact fun hb => h (hasBlock_of_rootEnd (hasBlock_of_openTag hb))

theorem rootStart_prefix_withRoot (text : List Char) : rootStart <+: withRoot text := by
  unfold withRoot
  split
  case isTrue h => exact List.isPrefixOf_iff_prefix.mp h
  case isFalse => exact ⟨_, rfl⟩

theorem withRoot_eq_self (h : rootStart <+: text) : withRoot text = text := by
  rw [withRoot, if_pos (List.isPrefixOf_iff_prefix.mpr h)]

theorem getLast?_withRoot (h : ∀ c ∈ text.getLast?, isSpace c = false) :
    ∀ c ∈ (withRoot text).getLast?, isSpace c = false := by
  unfold withRoot
  split
  · exact h
  · have last : rootEnd.getLast? = some '>' := by decide
    intro c hc
    rw [List.getLast?_append, last] at hc
    obtain rfl : '>' = c := by simpa using hc
    decide

/-- A map that changes no name that goes on from the name of the root keeps the root. -/
theorem rootStart_prefix_mapNames {f : List Char → List Char}
    (kept : ∀ name, "svg".toList <+: name → f name = name) (h : rootStart <+: text) :
    rootStart <+: mapNames f text := by
  obtain ⟨rest, rfl⟩ := h
  have letters : ∀ c ∈ "svg".toList, continuesName c = true := by decide
  have split : rootStart ++ rest =
      '<' :: (("svg".toList ++ rest.takeWhile continuesName) ++ rest.dropWhile continuesName) := by
    rw [List.append_assoc, List.takeWhile_append_dropWhile]; rfl
  have hn : IsName ("svg".toList ++ rest.takeWhile continuesName) := by
    refine ⟨by simp, fun c hc => ?_⟩
    rcases List.mem_append.mp hc with hc | hc
    · exact letters c hc
    · exact List.mem_takeWhile_imp hc
  rw [split, mapNames_cons _ (by decide), mapNames_run _ hn (parted_dropWhile rest),
    kept _ (List.prefix_append _ _), ite_self, rootStart]
  exact ⟨rest.takeWhile continuesName ++ mapNames f (rest.dropWhile continuesName),
    congrArg ('<' :: ·) (List.append_assoc ..).symm⟩

theorem rootStart_prefix_toJsxNames (h : rootStart <+: text) : rootStart <+: toJsxNames text := by
  have all : ∀ pair ∈ jsxPairs, ¬ "svg".toList <+: pair.1 := by decide +kernel
  rw [toJsxNames_eq]
  exact rootStart_prefix_mapNames
    (fun name hn => imageOf_of_not_mem fun pair hp he => all pair hp (he ▸ hn)) h

theorem trim_of_rootStart (root : rootStart <+: text)
    (last : ∀ c ∈ text.getLast?, isSpace c = false) :
    trim text = text := by
  refine trimBoth_eq_self (fun c hc => ?_) last
  obtain ⟨rest, rfl⟩ := root
  have first : rootStart.head? = some '<' := by decide
  rw [List.head?_append, first] at hc
  obtain rfl : '<' = c := by simpa using hc
  decide

end Root

/-! ## Normal forms -/

theorem not_hasBlock_normalForm (text : List Char) : ¬ HasBlock (normalForm text) :=
  not_hasBlock_toJsxNames (not_hasBlock_withRoot (not_hasBlock_trim (not_hasBlock_strip text)))

theorem rootStart_prefix_normalForm (text : List Char) : rootStart <+: normalForm text :=
  rootStart_prefix_toJsxNames (rootStart_prefix_withRoot _)

theorem getLast?_normalForm (text : List Char) :
    ∀ c ∈ (normalForm text).getLast?, isSpace c = false := by
  rw [normalForm, toJsxNames_eq, getLast?_mapNames]
  exact getLast?_withRoot (getLast?_trimBoth isSpace _)

/-- Of a text that starts with a root, has no blocks and no spaces around it, only names are
changed. -/
theorem normalForm_eq_toJsxNames (blocks : ¬ HasBlock text) (trimmed : trim text = text)
    (root : rootStart <+: text) : normalForm text = toJsxNames text := by
  rw [normalForm, strip_eq_self blocks, trimmed, withRoot_eq_self root]

theorem normalForm_normalForm (text : List Char) :
    normalForm (normalForm text) = normalForm text := by
  have root := rootStart_prefix_normalForm text
  calc normalForm (normalForm text)
      = toJsxNames (normalForm text) :=
        normalForm_eq_toJsxNames (not_hasBlock_normalForm text)
          (trim_of_rootStart root (getLast?_normalForm text)) root
    _ = normalForm text := toJsxNames_toJsxNames _

/-- Normal markup is its own normal form. It starts with a root, it has neither declarations nor
comments, and no attribute has its plain name. The rounds of stripping come to an end. -/
theorem normalize_canonical (markup : String) :
    normalize (normalize markup) = normalize markup ∧
      "<svg".toList <+: (normalize markup).toList ∧
      ¬ HasDeclaration (normalize markup).toList ∧
      ¬ HasComment (normalize markup).toList ∧
      (∀ entry ∈ attributeNames, ¬ HasAttribute entry.plain.toList (normalize markup).toList) ∧
      ∃ rounds ≤ markup.length,
        strip markup.toList = stripOnce^[rounds] markup.toList ∧
        (∀ n < rounds, HasBlock (stripOnce^[n] markup.toList)) ∧
        ¬ HasBlock (stripOnce^[rounds] markup.toList) := by
  have blocks := not_or.mp (not_hasBlock_normalForm markup.toList)
  simp only [normalize, String.toList_ofList, normalForm_normalForm, true_and]
  exact ⟨rootStart_prefix_normalForm _, blocks.1, blocks.2,
    fun entry he => not_hasAttribute_toJsxNames he _, strip_rounds _⟩

end Handoff.Markup
