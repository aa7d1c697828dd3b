import Handoff.Proofs.Markup.Normal

/-! # The two dialects

What the two maps of names do to a text is decided by the names of its attributes. A name that is
not in JSX becomes one in JSX and comes back, and a name that is not plain becomes a plain one and
comes back. The plain dialect of normal markup has neither declarations nor comments, so its normal
form is the markup that it comes from.
-/

namespace Handoff.Markup

open Text

variable {name text : List Char}

/-! ## Names of attributes -/

theorem isName_of_mem_assignedNames (h : name ∈ assignedNames text) : IsName name := by
  induction text using run_induction with
  | nil => simp at h
  | cons c rest hc ih =>
    rw [assignedNames_cons hc] at h
    exact ih h
  | run run rest hn hr ih =>
    rw [assignedNames_run hn hr, List.mem_append] at h
    rcases h with h | h
    · split at h
      · rw [List.mem_singleton.mp h]
        exact hn
      · cases h
    · exact ih h

theorem hasAttribute_of_mem_assignedNames (h : name ∈ assignedNames text) :
    HasAttribute name text := by
  induction text using run_induction with
  | nil => simp at h
  | cons c rest hc ih =>
    rw [assignedNames_cons hc] at h
    obtain ⟨before, after, rfl, apart, assigned⟩ := ih h
    refine ⟨c :: before, after, rfl, fun d hd => ?_, assigned⟩
    rw [List.getLast?_cons, Option.mem_some_iff] at hd
    cases hl : before.getLast? with
    | none => simpa [← hd, hl] using hc
    | some e => simpa [← hd, hl] using apart e hl
  | run run rest hn hr ih =>
    rw [assignedNames_run hn hr, List.mem_append] at h
    rcases h with h | h
    · split at h
      case isFalse => cases h
      case isTrue assigned =>
        rw [List.mem_singleton.mp h]
        exact ⟨[], rest, rfl, by simp, assigned⟩
    · have named := isName_of_mem_assignedNames h
      obtain ⟨before, after, rfl, apart, assigned⟩ := ih h
      refine ⟨run ++ before, after, by simp, fun d hd => ?_, assigned⟩
      cases before with
      | nil =>
        -- the name would go on the run
        obtain ⟨c, name, rfl⟩ := List.exists_cons_of_ne_nil named.ne_nil
        exact absurd (named.continues c (by simp)) (by simp [hr c rfl])
      | cons e before => exact apart d (by simpa [List.getLast?_append] using hd)

/-! ## There and back -/

theorem plain_jsx (h : ∀ pair ∈ jsxPairs, name ≠ pair.2) :
    imageOf plainPairs (imageOf jsxPairs name) = name := by
  rcases imageOf_jsxPairs_cases name with ⟨pair, hp, rfl, he⟩ | ⟨-, he⟩
  · have back : ∀ pair ∈ jsxPairs, imageOf plainPairs pair.2 = pair.1 := by decide +kernel
    rw [he, back pair hp]
  · have same : ∀ pair ∈ plainPairs, ∃ other ∈ jsxPairs, other.2 = pair.1 := by decide +kernel
    rw [he]
    refine imageOf_of_not_mem fun pair hp => ?_
    obtain ⟨other, ho, hs⟩ := same pair hp
    exact hs ▸ h other ho

theorem jsx_plain (h : ∀ pair ∈ jsxPairs, name ≠ pair.1) :
    imageOf jsxPairs (imageOf plainPairs name) = name := by
  rcases imageOf_plainPairs_cases name with ⟨pair, hp, rfl, he⟩ | ⟨-, he⟩
  · have back : ∀ pair ∈ plainPairs, imageOf jsxPairs pair.2 = pair.1 := by decide +kernel
    rw [he, back pair hp]
  · rw [he, imageOf_of_not_mem h]

theorem toPlainNames_toJsxNames
    (h : ∀ entry ∈ attributeNames, ¬ HasAttribute entry.jsx.toList text) :
    toPlainNames (toJsxNames text) = text := by
  rw [toPlainNames_eq, toJsxNames_eq, mapNames_mapNames keepsNames_jsx]
  refine mapNames_eq_self fun name hn => ?_
  rw [Function.comp_apply, plain_jsx]
  intro pair hp he
  obtain ⟨entry, hm, rfl⟩ := List.mem_map.mp hp
  obtain rfl := he
  exact h entry hm (hasAttribute_of_mem_assignedNames hn)

theorem toJsxNames_toPlainNames
    (h : ∀ entry ∈ attributeNames, ¬ HasAttribute entry.plain.toList text) :
    toJsxNames (toPlainNames text) = text := by
  rw [toPlainNames_eq, toJsxNames_eq, mapNames_mapNames keepsNames_plain]
  refine mapNames_eq_self fun name hn => ?_
  rw [Function.comp_apply, jsx_plain]
  intro pair hp he
  obtain ⟨entry, hm, rfl⟩ := List.mem_map.mp hp
  obtain rfl := he
  exact h entry hm (hasAttribute_of_mem_assignedNames hn)

/-! ## The plain dialect of normal markup -/

/-- The hyphens of plain names bring the parts of no block together, since none stands at an end of
a name. -/
theorem isPlainWord_plain (name : List Char) :
    imageOf plainPairs name = name ∨ IsPlainWord (imageOf plainPairs name) := by
  rcases imageOf_plainPairs_cases name with ⟨pair, hp, -, he⟩ | ⟨-, he⟩
  · have all : ∀ pair ∈ plainPairs, IsPlainWord pair.2 := by decide +kernel
    exact Or.inr (he ▸ all pair hp)
  · exact Or.inl he

theorem not_hasBlock_toPlainNames (h : ¬ HasBlock text) : ¬ HasBlock (toPlainNames text) := by
  rw [toPlainNames_eq]
  exact fun hb => h (hasBlock_of_mapNames isPlainWord_plain [] text (Or.inl (by simp)) hb)

theorem rootStart_prefix_toPlainNames (h : rootStart <+: text) :
    rootStart <+: toPlainNames text := by
  have all : ∀ pair ∈ plainPairs, ¬ "svg".toList <+: pair.1 := by decide +kernel
  rw [toPlainNames_eq]
  exact rootStart_prefix_mapNames
    (fun name hn => imageOf_of_not_mem fun pair hp he => all pair hp (he ▸ hn)) h

theorem normalForm_toPlainNames_normalForm (text : List Char) :
    normalForm (toPlainNames (normalForm text)) = normalForm text := by
  have root := rootStart_prefix_toPlainNames (rootStart_prefix_normalForm text)
  have last : ∀ c ∈ (toPlainNames (normalForm text)).getLast?, isSpace c = false := by
    rw [toPlainNames_eq, getLast?_mapNames]
    exact getLast?_normalForm text
  have blocks := not_hasBlock_toPlainNames (not_hasBlock_normalForm text)
  calc normalForm (toPlainNames (normalForm text))
      = toJsxNames (toPlainNames (normalForm text)) :=
        normalForm_eq_toJsxNames blocks (trim_of_rootStart root last) root
    _ = normalForm text :=
        toJsxNames_toPlainNames fun _ he => not_hasAttribute_toJsxNames he _

/-- The normal form and the plain dialect are inverse to each other. Normal markup is the normal
form of its plain dialect. Markup that is normal but for its dialect is the plain dialect of its
normal form: it starts with a root, no spaces stand around it, it has neither declarations nor
comments, and no attribute has its name in JSX. -/
theorem dialects_inverse (markup : String) :
    normalize (toPlain (normalize markup)) = normalize markup ∧
      ("<svg".toList <+: markup.toList → trim markup.toList = markup.toList →
        ¬ HasDeclaration markup.toList → ¬ HasComment markup.toList →
        (∀ entry ∈ attributeNames, ¬ HasAttribute entry.jsx.toList markup.toList) →
        toPlain (normalize markup) = markup) := by
  constructor
  · simp only [normalize, toPlain, String.toList_ofList, normalForm_toPlainNames_normalForm]
  · intro root trimmed declarations comments names
    have blocks : ¬ HasBlock markup.toList := not_or.mpr ⟨declarations, comments⟩
    rw [normalize, toPlain, String.toList_ofList, normalForm_eq_toJsxNames blocks trimmed root,
      toPlainNames_toJsxNames names, String.ofList_toList]

/-- A drawing with plain names, one of them at the end of a longer name. -/
def plainDrawing : String :=
  "<svg class=\"a\" stroke-width = \"2\"><path data-class=\"b\"/></svg>"

theorem dialects_inverse_plainDrawing :
    "<svg".toList <+: plainDrawing.toList ∧ trim plainDrawing.toList = plainDrawing.toList ∧
      ¬ HasDeclaration plainDrawing.toList ∧ ¬ HasComment plainDrawing.toList ∧
      (∀ entry ∈ attributeNames, ¬ HasAttribute entry.jsx.toList plainDrawing.toList) ∧
      toPlain (normalize plainDrawing) = plainDrawing := by
  have root : "<svg".toList <+: plainDrawing.toList := by decide
  have trimmed : trim plainDrawing.toList = plainDrawing.toList := by decide +kernel
  have declarations : ¬ HasDeclaration plainDrawing.toList := by
    rintro ⟨before, body, after, -, he⟩
    have mark : '?' ∉ plainDrawing.toList := by decide
    exact mark (he ▸ by simp)
  have comments : ¬ HasComment plainDrawing.toList := by
    rintro ⟨before, body, after, he⟩
    have mark : '!' ∉ plainDrawing.toList := by decide
    exact mark (he ▸ by simp)
  have names : ∀ entry ∈ attributeNames, ¬ HasAttribute entry.jsx.toList plainDrawing.toList := by
    rintro entry hm ⟨before, after, he, -⟩
    have humps : ∀ entry ∈ attributeNames, ∃ c ∈ entry.jsx.toList, c.isUpper = true := by
      decide +kernel
    have small : ∀ c ∈ plainDrawing.toList, c.isUpper = false := by decide
    obtain ⟨c, hc, upper⟩ := humps entry hm
    exact ne_true_of_eq_false (small c (he ▸ by simp [hc])) upper
  exact ⟨root, trimmed, declarations, comments, names,
    (dialects_inverse plainDrawing).2 root trimmed declarations comments names⟩

end Handoff.Markup
