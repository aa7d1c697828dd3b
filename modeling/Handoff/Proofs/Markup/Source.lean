import Handoff.Proofs.Markup.Clean
import Handoff.Proofs.Markup.Tree
import Handoff.Text.Lines

/-! # Sources from lines

A source is put together from lines and sections. Lines balance if the marks that they spell do;
this is kept when lines are joined, and when they are put between an opening and a closing tag.
-/

namespace Handoff.Markup

open Text (joinLines lastOr)

variable {jsx : Bool} {a b s separator : String} {lines : List String} {c : Char} {name : List Char}

/-! ## Strings without a character -/

def Lacks (c : Char) (s : String) : Prop := c ∉ s.toList

instance (c : Char) (s : String) : Decidable (Lacks c s) := inferInstanceAs (Decidable (¬ _))

theorem Lacks.append (ha : Lacks c a) (hb : Lacks c b) : Lacks c (a ++ b) := by
  rw [Lacks, String.toList_append, List.mem_append, not_or]
  exact ⟨ha, hb⟩

theorem lacks_intercalate (hs : Lacks c separator) (h : ∀ line ∈ lines, Lacks c line) :
    Lacks c (separator.intercalate lines) := by
  induction lines with
  | nil => simp [Lacks]
  | cons line lines ih =>
    obtain ⟨first, others⟩ := List.forall_mem_cons.mp h
    rcases eq_or_ne lines [] with rfl | ne
    · simpa using first
    · rw [String.intercalate_cons_of_ne_nil ne]
      exact (first.append hs).append (ih others)

theorem lacks_of_forall {p : Char → Bool} (h : ∀ d ∈ s.toList, p d = true) (hc : p c = false) :
    Lacks c s := fun hm => by simp [h c hm] at hc

/-- Neither an opening bracket nor an equals sign occurs in a string. -/
structure Inert (s : String) : Prop where
  bracket : Lacks '<' s
  equals : Lacks '=' s

instance (s : String) : Decidable (Inert s) :=
  decidable_of_iff (Lacks '<' s ∧ Lacks '=' s) ⟨fun h => ⟨h.1, h.2⟩, fun h => ⟨h.1, h.2⟩⟩

theorem Inert.append (ha : Inert a) (hb : Inert b) : Inert (a ++ b) :=
  ⟨ha.bracket.append hb.bracket, ha.equals.append hb.equals⟩

theorem inert_intercalate (hs : Inert separator) (h : ∀ line ∈ lines, Inert line) :
    Inert (separator.intercalate lines) :=
  ⟨lacks_intercalate hs.bracket fun line hl => (h line hl).bracket,
    lacks_intercalate hs.equals fun line hl => (h line hl).equals⟩

theorem Lacks.clean (h : Lacks '=' s) : Clean s.toList := clean_of_not_mem h

theorem Inert.clean (h : Inert s) : Clean s.toList := clean_of_not_mem h.equals

theorem getLast?_toList_append (a : String) (h : b.toList.getLast? = some c) :
    (a ++ b).toList.getLast? = some c := by
  rw [String.toList_append, List.getLast?_append, h, Option.some_or]

theorem spells_glued {word first : String} (ha : Lacks '<' (a ++ word))
    (hb : Lacks '<' (first ++ b)) (behind : ∃ c ∈ word.toList.getLast?, allowsTag c = false)
    (ahead : ∃ c ∈ first.toList.head?, c ≠ '/') :
    Spells jsx (a ++ word ++ "<" ++ (first ++ b)).toList [] := by
  obtain ⟨last, hl, glued⟩ := behind
  obtain ⟨c, hc, ne⟩ := ahead
  have split : (a ++ word ++ "<" ++ (first ++ b)).toList =
      (a ++ word).toList ++ '<' :: (first ++ b).toList := by simp
  have ends : (a ++ word).toList.getLast? = some last := getLast?_toList_append a hl
  have starts : (first ++ b).toList.head? = some c := by
    rw [String.toList_append, List.head?_append, Option.mem_def.mp hc, Option.some_or]
  rw [split]
  exact (spellsAnywhere_glued ha hb ends glued starts ne).spells

theorem spells_commentStart : Spells jsx "<!--".toList [] := by
  intro before rest _
  have passed : tagAt? before .start ('<' :: ("!--".toList ++ rest)) = none := by
    have unnamed : tagName? ('!' :: '-' :: '-' :: rest) = none := rfl
    simp [tagAt?, unnamed]
  calc marks jsx before ('<' :: ("!--".toList ++ rest))
      = marks jsx (some '<') ("!--".toList ++ rest) := marks_pass passed
    _ = marks jsx (lastOr before "<!--".toList) rest :=
      spellsAnywhere_of_not_mem (by decide) (some '<') rest

/-! ## Balanced lines -/

def Balances (jsx : Bool) (lines : List String) : Prop :=
  ∃ m, SpellsLines jsx lines m ∧ Balanced m

theorem Balances.append {x y : List String} (hx : Balances jsx x) (hy : Balances jsx y) :
    Balances jsx (x ++ y) := by
  obtain ⟨m, hm, bm⟩ := hx
  obtain ⟨n, hn, bn⟩ := hy
  exact ⟨m ++ n, hm.append hn, bm.append bn⟩

theorem Balances.cons (ha : Balances jsx [a]) (h : Balances jsx lines) :
    Balances jsx (a :: lines) := ha.append h

/-- Lines may be put between an opening tag and its closing tag. -/
theorem Balances.enclose (h : Balances jsx lines) (ha : Spells jsx a.toList [⟨false, name⟩])
    (hb : Spells jsx b.toList [⟨true, name⟩]) : Balances jsx ([a] ++ lines ++ [b]) := by
  obtain ⟨m, hm, bm⟩ := h
  exact ⟨[⟨false, name⟩] ++ m ++ [⟨true, name⟩],
    ((spellsLines_singleton ha).append hm).append (spellsLines_singleton hb), bm.wrap name⟩

theorem Balances.within (h : Balances jsx lines) (name tail : List Char)
    (hn : IsTagName name) (ht : IsOpenTail tail) (closed : jsx = true ∨ isVoid name = false)
    (ha : a.toList = '<' :: name ++ tail ++ ['>']) (hb : b.toList = "</".toList ++ name ++ ['>']) :
    Balances jsx ([a] ++ lines ++ [b]) := by
  have opening : Spells jsx a.toList [⟨false, name⟩] := ha ▸ (ht.isTag hn closed).spells
  have closing : Spells jsx b.toList [⟨true, name⟩] := hb ▸ (spellsAnywhere_closing hn).spells
  exact h.enclose opening closing

theorem balances_of_spells (h : Spells jsx s.toList []) : Balances jsx [s] :=
  ⟨[], spellsLines_singleton h, .nil⟩

theorem balances_nil : Balances jsx [] := ⟨[], .nil, .nil⟩

theorem balances_of_forall (h : ∀ line ∈ lines, Spells jsx line.toList []) :
    Balances jsx lines := by
  induction lines with
  | nil => exact balances_nil
  | cons line lines ih =>
    obtain ⟨first, others⟩ := List.forall_mem_cons.mp h
    exact (balances_of_spells first).cons (ih others)

theorem balances_of_lacks (h : ∀ line ∈ lines, Lacks '<' line) : Balances jsx lines :=
  ⟨[], spellsLines_of_not_mem h, .nil⟩

theorem balances_of_inert (h : ∀ line ∈ lines, Inert line) : Balances jsx lines :=
  balances_of_lacks fun line hl => (h line hl).bracket

theorem Balances.intercalate (h : Balances jsx lines) (free : Lacks '<' separator)
    (ne : separator.toList ≠ []) (opens : Opens separator.toList.getLast?) :
    Balances jsx [separator.intercalate lines] := by
  obtain ⟨m, hm, bm⟩ := h
  exact ⟨m, spellsLines_singleton (hm.intercalate free ne opens), bm⟩

theorem opens_newline : Opens (some '\n') := by
  intro c hc
  cases hc
  decide

theorem Balances.join (h : Balances jsx lines) : Balances jsx [joinLines lines] :=
  h.intercalate (by decide) (by decide) opens_newline

theorem Balances.below (ha : Balances jsx [a]) (hb : Balances jsx [b]) :
    Balances jsx [a ++ "\n" ++ b] := by
  simpa [joinLines] using (ha.append hb).join

theorem Balances.newline (ha : Balances jsx [a]) : Balances jsx [a ++ "\n"] := by
  simpa using ha.below (b := "") (balances_of_lacks (by simp [Lacks]))

theorem Balances.balanced (h : Balances jsx [s]) : Balanced (marks jsx none s.toList) := by
  obtain ⟨m, hm, bm⟩ := h
  cases hm with
  | cons first rest =>
    cases rest
    rw [List.append_nil] at bm
    exact first.marks_eq.symm ▸ bm

/-! ## Clean lines -/

theorem clean_append_seam (ha : Clean a.toList) (hb : Clean b.toList)
    (last : a.toList.getLast? = some c) (seam : IsSeam c) : Clean (a ++ b).toList := by
  rw [String.toList_append]
  exact ha.append hb (.inl fun d hd => Option.some.inj (last.symm.trans hd) ▸ seam)

theorem clean_seam_append (ha : Clean a.toList) (hb : Clean b.toList)
    (first : b.toList.head? = some c) (seam : IsSeam c) : Clean (a ++ b).toList := by
  rw [String.toList_append]
  exact ha.append hb (.inr fun d hd => Option.some.inj (first.symm.trans hd) ▸ seam)

theorem clean_intercalate (hs : Clean separator.toList)
    (seams : (∀ c ∈ separator.toList.head?, IsSeam c) ∧ ∀ c ∈ separator.toList.getLast?, IsSeam c)
    (ne : separator.toList ≠ []) (h : ∀ line ∈ lines, Clean line.toList) :
    Clean (separator.intercalate lines).toList := by
  induction lines with
  | nil => rw [String.intercalate_nil]; decide
  | cons line lines ih =>
    obtain ⟨first, others⟩ := List.forall_mem_cons.mp h
    rcases eq_or_ne lines [] with rfl | hl
    · simpa using first
    · rw [String.intercalate_cons_of_ne_nil hl, String.toList_append, String.toList_append]
      refine (first.append hs (.inr seams.1)).append (ih others) (.inl ?_)
      rw [List.getLast?_append_of_ne_nil _ ne]
      exact seams.2

theorem clean_joinLines (h : ∀ line ∈ lines, Clean line.toList) : Clean (joinLines lines).toList :=
  clean_intercalate (by decide) (by decide) (by decide) h

end Handoff.Markup
