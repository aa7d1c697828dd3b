import Handoff.Proofs.Markup.Escape
import Handoff.Proofs.Markup.Tree

/-! # Active characters

Four characters can start code within the text of a component. Escaping a text, renaming attributes
in it and trimming it change nothing but what stands between active characters, and never put
something where nothing was. So a sign made of active characters stands in the changed text if and
only if it stands in the text.
-/

namespace Handoff.Markup

open Text

/-- A character that starts code in one of the frameworks, or ends it. -/
def isActive (c : Char) : Bool := ['\x7b', '\x7d', '\x60', '$'].contains c

/-- No character is active. -/
def Passive (text : List Char) : Prop := ∀ c ∈ text, isActive c = false

instance (text : List Char) : Decidable (Passive text) :=
  inferInstanceAs (Decidable (∀ c ∈ text, _))

structure IsSign (sign : List Char) : Prop where
  ne_nil : sign ≠ []
  active : ∀ c ∈ sign, isActive c = true

instance (sign : List Char) : Decidable (IsSign sign) :=
  decidable_of_iff (sign ≠ [] ∧ ∀ c ∈ sign, isActive c = true)
    ⟨fun ⟨ne, active⟩ => ⟨ne, active⟩, fun h => ⟨h.ne_nil, h.active⟩⟩

variable {c : Char} {sign text front back gap name tail x y : List Char} {f : List Char → List Char}

/-! ## Passive texts -/

theorem passive_append : Passive (x ++ y) ↔ Passive x ∧ Passive y := List.forall_mem_append

theorem passive_cons : Passive (c :: x) ↔ isActive c = false ∧ Passive x := List.forall_mem_cons

theorem passive_flatMap {α : Type} {l : List α} {g : α → List Char} :
    Passive (l.flatMap g) ↔ ∀ a ∈ l, Passive (g a) := by
  simp only [Passive, List.mem_flatMap, forall_exists_index, and_imp]
  exact ⟨fun h a ha c hc => h c a ha hc, fun h c a ha hc => h a ha c hc⟩

theorem mem_actives (h : isActive c = true) : c ∈ ['\x7b', '\x7d', '\x60', '$'] :=
  List.contains_iff_mem.mp h

/-- A class of characters is passive if it has none of the four. -/
theorem isActive_of_class {p : Char → Bool}
    (apart : ∀ c ∈ ['\x7b', '\x7d', '\x60', '$'], p c = false)
    (h : p c = true) : isActive c = false :=
  eq_false_of_ne_true fun active => ne_true_of_eq_false (apart c (mem_actives active)) h

theorem passive_spaces (h : ∀ c ∈ gap, isSpace c = true) : Passive gap := fun c hc =>
  isActive_of_class (by decide) (h c hc)

theorem IsName.passive (h : IsName name) : Passive name := fun c hc =>
  isActive_of_class (by decide) (h.continues c hc)

theorem IsTagName.passive (h : IsTagName name) : Passive name := fun c hc =>
  isActive_of_class (by decide) (h.continues c hc)

theorem Passive.mapNames (hf : KeepsNames f) (h : Passive text) : Passive (mapNames f text) := by
  have parts : ∀ c ∈ ['\x7b', '\x7d', '\x60', '$'], continuesName c = false := by decide
  intro c hc
  by_contra active
  have listed := mem_actives (by simpa using active)
  exact active (h c (by_contra fun absent => not_mem_mapNames hf (parts c listed) absent hc))

theorem passive_escapeChar (h : isActive c = false) : Passive (escapeChar c) := by
  rcases escapeChar_cases c with ⟨-, he⟩ | ⟨-, he⟩ | ⟨-, he⟩ | ⟨-, -, -, he⟩
  · rw [he]; decide
  · rw [he]; decide
  · rw [he]; decide
  · rw [he]; exact List.forall_mem_singleton.mpr h

theorem Passive.escape (h : Passive text) : Passive (escape text) :=
  passive_flatMap.mpr fun c hc => passive_escapeChar (h c hc)

/-! ## Signs -/

theorem IsSign.not_mem (h : IsSign sign) (hc : isActive c = false) : c ∉ sign := fun hm =>
  ne_true_of_eq_false hc (h.active c hm)

theorem IsSign.not_prefix_cons (h : IsSign sign) (hc : isActive c = false) : ¬ sign <+: c :: x := by
  intro start
  rcases List.prefix_cons_iff.mp start with he | ⟨rest, rfl, -⟩
  · exact h.ne_nil he
  · exact h.not_mem hc List.mem_cons_self

theorem IsSign.infix_cons_iff (h : IsSign sign) (hc : isActive c = false) :
    sign <:+: c :: x ↔ sign <:+: x := by
  rw [List.infix_cons_iff, or_iff_right (h.not_prefix_cons hc)]

theorem IsSign.infix_append_left_iff (h : IsSign sign) (hf : Passive front) :
    sign <:+: front ++ x ↔ sign <:+: x := by
  induction front with
  | nil => rfl
  | cons c front ih =>
    obtain ⟨hc, hf⟩ := passive_cons.mp hf
    rw [List.cons_append, h.infix_cons_iff hc, ih hf]

theorem IsSign.not_infix (h : IsSign sign) (hx : Passive x) : ¬ sign <:+: x := by
  intro found
  obtain ⟨c, hc⟩ := List.exists_mem_of_ne_nil sign h.ne_nil
  exact ne_true_of_eq_false (hx c (found.subset hc)) (h.active c hc)

theorem IsSign.infix_between_iff (h : IsSign sign) (hg : Passive gap) (ne : gap ≠ []) :
    sign <:+: x ++ gap ++ y ↔ sign <:+: x ∨ sign <:+: y := by
  obtain ⟨c, gap, rfl⟩ := List.exists_cons_of_ne_nil ne
  obtain ⟨hc, hg⟩ := passive_cons.mp hg
  rw [List.append_assoc, List.cons_append, infix_append_cons_iff (h.not_mem hc),
    h.infix_append_left_iff hg]

theorem IsSign.infix_append_right_iff (h : IsSign sign) (hb : Passive back) :
    sign <:+: x ++ back ↔ sign <:+: x := by
  rcases eq_or_ne back [] with rfl | ne
  · rw [List.append_nil]
  · have beside := h.infix_between_iff (x := x) (y := []) hb ne
    rwa [List.append_nil, or_iff_left (h.not_infix (by simp [Passive]))] at beside

theorem IsSign.infix_trim_iff (h : IsSign sign) (text : List Char) :
    sign <:+: trim text ↔ sign <:+: text := by
  obtain ⟨before, after, he, hb, ha⟩ := trimBoth_around isSpace text
  have around := h.infix_append_right_iff (x := before ++ trim text) (passive_spaces ha)
  rw [h.infix_append_left_iff (passive_spaces hb), trim, ← he] at around
  exact around.symm

/-! ## Texts that are alike -/

/-- The texts are the same but for passive pieces, which become others and never nothing. -/
inductive Alike : List Char → List Char → Prop
  | nil : Alike [] []
  | same (c : Char) {x y : List Char} : Alike x y → Alike (c :: x) (c :: y)
  | piece {a b x y : List Char} : a ≠ [] → b ≠ [] → Passive a → Passive b → Alike x y →
    Alike (a ++ x) (b ++ y)

theorem Alike.symm (h : Alike x y) : Alike y x := by
  induction h with
  | nil => exact .nil
  | same c _ ih => exact .same c ih
  | piece ha hb ia ib _ ih => exact .piece hb ha ib ia ih

theorem Alike.prefix_of (h : Alike x y) (hs : ∀ c ∈ sign, isActive c = true) (start : sign <+: x) :
    sign <+: y := by
  induction h generalizing sign with
  | nil => exact start
  | same c _ ih =>
    rcases List.prefix_cons_iff.mp start with rfl | ⟨rest, rfl, behind⟩
    · exact List.nil_prefix
    · exact List.cons_prefix_cons.mpr ⟨rfl, ih (List.forall_mem_cons.mp hs).2 behind⟩
  | @piece a _ _ _ ha _ ia _ _ _ =>
    rcases eq_or_ne sign [] with rfl | ne
    · exact List.nil_prefix
    · obtain ⟨c, a, rfl⟩ := List.exists_cons_of_ne_nil ha
      exact absurd start (IsSign.not_prefix_cons ⟨ne, hs⟩ (passive_cons.mp ia).1)

theorem Alike.infix_of (h : Alike x y) (hs : IsSign sign) (found : sign <:+: x) : sign <:+: y := by
  induction h with
  | nil => exact found
  | same c h ih =>
    rcases List.infix_cons_iff.mp found with start | behind
    · exact ((Alike.same c h).prefix_of hs.active start).isInfix
    · exact (ih behind).trans (List.suffix_cons c _).isInfix
  | piece _ _ ia ib _ ih =>
    exact (hs.infix_append_left_iff ib).mpr (ih ((hs.infix_append_left_iff ia).mp found))

theorem Alike.infix_iff (h : Alike x y) (hs : IsSign sign) : sign <:+: x ↔ sign <:+: y :=
  ⟨h.infix_of hs, h.symm.infix_of hs⟩

theorem alike_escape (text : List Char) : Alike text (escape text) := by
  induction text with
  | nil => exact .nil
  | cons c text ih =>
    have reference {c : Char} {image : String} (he : escapeChar c = image.toList)
        (hc : isActive c = false) (ne : image.toList ≠ []) (hi : Passive image.toList) :
        Alike (c :: text) (escapeChar c ++ escape text) :=
      he ▸ .piece (List.cons_ne_nil c []) ne (List.forall_mem_singleton.mpr hc) hi ih
    rw [escape, List.flatMap_cons, ← escape]
    rcases escapeChar_cases c with ⟨rfl, he⟩ | ⟨rfl, he⟩ | ⟨rfl, he⟩ | ⟨-, -, -, he⟩
    · exact reference he (by decide) (by decide) (by decide)
    · exact reference he (by decide) (by decide) (by decide)
    · exact reference he (by decide) (by decide) (by decide)
    · rw [he]
      exact .same c ih

theorem alike_mapNames (hf : KeepsNames f) (text : List Char) : Alike text (mapNames f text) := by
  induction text using run_induction with
  | nil =>
    rw [mapNames_nil]
    exact .nil
  | cons c rest hc ih =>
    rw [mapNames_cons f hc]
    exact .same c ih
  | run name rest hn hr ih =>
    rw [mapNames_run f hn hr]
    split
    · exact .piece hn.ne_nil (hf name hn).ne_nil hn.passive (hf name hn).passive ih
    · exact .piece hn.ne_nil hn.ne_nil hn.passive hn.passive ih

end Handoff.Markup
