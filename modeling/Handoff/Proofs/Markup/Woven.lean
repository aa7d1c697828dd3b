import Handoff.Proofs.Markup.Normal
import Handoff.Proofs.Markup.Spelling

/-! # Texts woven of tags

A woven text consists of tags with free text between them. Renaming attributes and trimming keep a
text woven with the same marks, and no declaration and no comment starts in it.
-/

namespace Handoff.Markup

open Text

/-- A tag with the marks that it spells. -/
inductive IsTag (jsx : Bool) : List Char → List Mark → Prop
  | opening {name tail : List Char} : IsTagName name → IsTagTail tail →
    IsTag jsx ('<' :: name ++ tail ++ ['>']) (openingMarks jsx name tail)
  | closing {name : List Char} : IsTagName name →
    IsTag jsx ("</".toList ++ name ++ ['>']) [⟨true, name⟩]

inductive Woven (jsx : Bool) : List Char → List Mark → Prop
  | text {lead : List Char} : '<' ∉ lead → Woven jsx lead []
  | tag {lead token rest : List Char} {m n : List Mark} : '<' ∉ lead → IsTag jsx token m →
    Woven jsx rest n → Woven jsx (lead ++ token ++ rest) (m ++ n)

variable {jsx : Bool} {name tail token text x y : List Char} {m n : List Mark}
  {f : List Char → List Char}

/-! ## Names and tags -/

theorem isBar_lt : IsBar '<' := ⟨by decide, by decide, by decide⟩

theorem isBar_gt : IsBar '>' := ⟨by decide, by decide, by decide⟩

theorem continuesTagName_of_continuesName {c : Char} (h : continuesTagName c = false) :
    continuesName c = false := by
  simp only [continuesTagName, continuesName, Bool.or_eq_false_iff] at h ⊢
  exact ⟨⟨h.1.1.1, h.1.2⟩, h.2⟩

theorem IsTagName.not_mem (hn : IsTagName name) {c : Char} (hc : continuesTagName c = false) :
    c ∉ name := fun hm => by simp [hn.continues c hm] at hc

theorem IsTagTail.mapNames (hf : KeepsNames f) (ht : IsTagTail tail) :
    IsTagTail (mapNames f tail) where
  free c hc := by
    by_contra bracket
    rw [not_and_or, not_not, not_not] at bracket
    rcases bracket with rfl | rfl
    · exact not_mem_mapNames hf isBar_lt.parts (fun hm => (ht.free _ hm).1 rfl) hc
    · exact not_mem_mapNames hf isBar_gt.parts (fun hm => (ht.free _ hm).2 rfl) hc
  parted := by
    cases tail with
    | nil => simp
    | cons c tail =>
      have hc := ht.parted c rfl
      rw [mapNames_cons f (continuesTagName_of_continuesName hc)]
      simpa using hc
  unassigned := (isAssigned_mapNames hf tail).trans ht.unassigned
  last := (getLast?_mapNames f tail).symm ▸ ht.last

theorem openingMarks_mapNames (f : List Char → List Char) :
    openingMarks jsx name (mapNames f tail) = openingMarks jsx name tail := by
  rw [openingMarks, openingMarks, getLast?_mapNames]

theorem mapNames_opening (f : List Char → List Char) (hn : IsTagName name) (ht : IsTagTail tail)
    (rest : List Char) :
    mapNames f ('<' :: name ++ tail ++ ['>'] ++ rest) =
      '<' :: name ++ mapNames f tail ++ ['>'] ++ mapNames f rest := by
  have parted : Parted tail := fun c hc => continuesTagName_of_continuesName (ht.parted c hc)
  have equals : '=' ∉ name := hn.not_mem (by decide)
  calc mapNames f ('<' :: name ++ tail ++ ['>'] ++ rest)
      = mapNames f ('<' :: (name ++ tail ++ '>' :: rest)) := by simp
    _ = '<' :: (mapNames f (name ++ tail) ++ '>' :: mapNames f rest) := by
      rw [mapNames_cons f isBar_lt.parts, mapNames_append_bar f isBar_gt]
    _ = '<' :: name ++ mapNames f tail ++ ['>'] ++ mapNames f rest := by
      rw [mapNames_append_of_not_mem f equals ht.unassigned parted]
      simp

theorem mapNames_closing (f : List Char → List Char) (hn : IsTagName name) (rest : List Char) :
    mapNames f ("</".toList ++ name ++ ['>'] ++ rest) =
      "</".toList ++ name ++ ['>'] ++ mapNames f rest := by
  have equals : '=' ∉ "</".toList ++ name := by
    have hm : '=' ∉ name := hn.not_mem (by decide)
    simpa using hm
  have kept := mapNames_append_of_not_mem f equals (y := []) rfl parted_nil
  rw [List.append_nil, mapNames_nil, List.append_nil] at kept
  rw [List.append_assoc, List.singleton_append, mapNames_append_bar f isBar_gt, kept]
  simp

/-- A tag is enclosed in brackets, and no bracket stands between them. -/
theorem IsTag.shape (h : IsTag jsx token m) :
    ∃ c body, token = '<' :: (c :: body) ++ ['>'] ∧ (c.isAlpha = true ∨ c = '/') ∧
      ∀ d ∈ c :: body, d ≠ '<' ∧ d ≠ '>' := by
  have apart {name : List Char} (hn : IsTagName name) : ∀ d ∈ name, d ≠ '<' ∧ d ≠ '>' :=
    fun d hd =>
      ⟨fun he => hn.not_mem (by decide) (he ▸ hd), fun he => hn.not_mem (by decide) (he ▸ hd)⟩
  cases h with
  | @opening name tail hn ht =>
    obtain ⟨c, rest, rfl⟩ := List.exists_cons_of_ne_nil hn.ne_nil
    exact ⟨c, rest ++ tail, by simp, .inl (hn.first c rfl),
      List.forall_mem_append.mpr ⟨apart hn, ht.free⟩⟩
  | @closing name hn =>
    exact ⟨'/', name, by simp, .inr rfl, List.forall_mem_cons.mpr ⟨by decide, apart hn⟩⟩

theorem IsTag.spells (h : IsTag jsx token m) : Spells jsx token m := by
  cases h with
  | opening hn ht => exact spells_opening hn ht
  | closing hn => exact (spellsAnywhere_closing hn).spells

theorem IsTag.mapNames (hf : KeepsNames f) (h : IsTag jsx token m) :
    ∃ image, IsTag jsx image m ∧
      ∀ rest, Markup.mapNames f (token ++ rest) = image ++ Markup.mapNames f rest := by
  cases h with
  | opening hn ht =>
    refine ⟨_, ?_, mapNames_opening f hn ht⟩
    exact openingMarks_mapNames f ▸ .opening hn (ht.mapNames hf)
  | closing hn => exact ⟨_, .closing hn, mapNames_closing f hn⟩

/-! ## Woven texts -/

theorem Woven.lead (hx : '<' ∉ x) (hy : Woven jsx y m) : Woven jsx (x ++ y) m := by
  cases hy with
  | text hl => exact .text (by simp [hx, hl])
  | tag hl token rest =>
    rw [← List.append_assoc, ← List.append_assoc]
    exact .tag (by simp [hx, hl]) token rest

theorem IsTag.woven (h : IsTag jsx token m) (rest : Woven jsx y n) :
    Woven jsx (token ++ y) (m ++ n) := by
  simpa using Woven.tag List.not_mem_nil h rest

theorem Woven.append (hx : Woven jsx x m) (hy : Woven jsx y n) : Woven jsx (x ++ y) (m ++ n) := by
  induction hx with
  | text hl => exact hy.lead hl
  | tag hl token _ ih => simpa using Woven.tag hl token ih

theorem Woven.mapNames (hf : KeepsNames f) (h : Woven jsx text m) :
    Woven jsx (mapNames f text) m := by
  induction h with
  | text hl => exact .text (not_mem_mapNames hf isBar_lt.parts hl)
  | @tag lead token rest m n hl ht _ ih =>
    obtain ⟨image, hi, mapped⟩ := ht.mapNames hf
    obtain ⟨c, body, rfl, -⟩ := ht.shape
    have split : Markup.mapNames f (lead ++ ('<' :: (c :: body) ++ ['>']) ++ rest) =
        Markup.mapNames f lead ++ image ++ Markup.mapNames f rest :=
      calc Markup.mapNames f (lead ++ ('<' :: (c :: body) ++ ['>']) ++ rest)
          = Markup.mapNames f (lead ++ '<' :: (c :: body ++ '>' :: rest)) := by simp
        _ = Markup.mapNames f lead ++ Markup.mapNames f ('<' :: (c :: body) ++ ['>'] ++ rest) := by
          rw [mapNames_append_bar f isBar_lt, ← mapNames_cons f isBar_lt.parts]
          simp
        _ = Markup.mapNames f lead ++ image ++ Markup.mapNames f rest := by
          rw [mapped, List.append_assoc]
    rw [split]
    exact .tag (not_mem_mapNames hf isBar_lt.parts hl) hi ih

/-! ## What is kept of a woven text -/

theorem Woven.dropWhile (h : Woven jsx text m) : Woven jsx (text.dropWhile isSpace) m := by
  cases h with
  | text hl => exact .text fun hm => hl ((List.dropWhile_sublist _).subset hm)
  | @tag lead token rest m n hl ht hr =>
    obtain ⟨c, body, rfl, -⟩ := ht.shape
    have split : (lead ++ ('<' :: (c :: body) ++ ['>']) ++ rest).dropWhile isSpace =
        lead.dropWhile isSpace ++ ('<' :: (c :: body) ++ ['>']) ++ rest := by
      rw [List.append_assoc, List.cons_append, List.cons_append, dropWhile_append_cons (by decide)]
      simp
    rw [split]
    exact .tag (fun hm => hl ((List.dropWhile_sublist _).subset hm)) ht hr

theorem Woven.rdropWhile (h : Woven jsx text m) : Woven jsx (text.rdropWhile isSpace) m := by
  induction h with
  | text hl => exact .text fun hm => hl ((List.rdropWhile_prefix _ _).subset hm)
  | @tag lead token rest m n hl ht hr ih =>
    obtain ⟨c, body, rfl, -⟩ := ht.shape
    have split : (lead ++ ('<' :: (c :: body) ++ ['>']) ++ rest).rdropWhile isSpace =
        lead ++ ('<' :: (c :: body) ++ ['>']) ++ rest.rdropWhile isSpace := by
      rw [← List.append_assoc, List.append_assoc, List.singleton_append,
        rdropWhile_append_cons (by decide)]
      simp
    rw [split]
    exact .tag hl ht ih

theorem Woven.trim (h : Woven jsx text m) : Woven jsx (trim text) m := h.dropWhile.rdropWhile

theorem split_behind {c : Char} {front rest : List Char} (hx : c ∉ x)
    (h : x ++ y = front ++ c :: rest) : ∃ w, front = x ++ w ∧ y = w ++ c :: rest := by
  rcases List.append_eq_append_iff.mp h with ⟨w, rfl, rfl⟩ | ⟨w, rfl, hw⟩
  · exact ⟨w, rfl, rfl⟩
  · cases w with
    | nil => exact ⟨[], by simp, by simpa using hw.symm⟩
    | cons d w => simp_all

theorem Woven.behind_bracket (h : Woven jsx text m) {front rest : List Char} {d : Char}
    (he : text = front ++ '<' :: d :: rest) : d.isAlpha = true ∨ d = '/' := by
  induction h generalizing front with
  | text hl => exact absurd (by simp [he]) hl
  | tag hl ht _ ih =>
    obtain ⟨c, body, rfl, hc, free⟩ := ht.shape
    rw [List.append_assoc] at he
    obtain ⟨w, -, he⟩ := split_behind hl he
    cases w with
    | nil =>
      obtain ⟨-, he⟩ := List.cons.inj he
      obtain ⟨rfl, -⟩ := List.cons.inj he
      exact hc
    | cons e w =>
      have inner : '<' ∉ c :: body ++ ['>'] := by
        simpa using ⟨(free c (by simp)).1.symm, fun hm =>
          (free _ (List.mem_cons_of_mem c hm)).1 rfl⟩
      obtain ⟨-, he⟩ := List.cons.inj he
      obtain ⟨v, -, he⟩ := split_behind inner he
      exact ih he

theorem Woven.not_hasBlock (h : Woven jsx text m) : ¬ HasBlock text := by
  rintro (⟨before, body, after, -, he⟩ | ⟨before, body, after, he⟩)
  · exact absurd (h.behind_bracket (d := '?') (by simpa using he)) (by decide)
  · exact absurd (h.behind_bracket (d := '!') (by simpa using he)) (by decide)

end Handoff.Markup
