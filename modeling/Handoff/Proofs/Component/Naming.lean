import Handoff.Generation.Engine
import Handoff.Proofs.Component.Name

/-! # Names that stay

A capital and the letters and digits behind it are the name of a component, and its own name, so a
name can be worked out again and again. A class is the name in small letters with a hyphen before
some of its capitals: never at either end, and never beside another hyphen. What is a class already
stays as it is.
-/

namespace Handoff.Component

variable {cut : Option Char → Char → Option Char → Bool} {c : Char}
  {p q : Char → Bool} {name text rest : List Char}

/-! ## Names of components -/

/-- A capital, and letters and digits behind it. -/
inductive IsName : List Char → Prop
  | capital {c : Char} {rest : List Char} (first : c.isUpper = true)
    (others : ∀ d ∈ rest, d.isAlphanum = true) : IsName (c :: rest)

theorem isAlpha_of_isUpper (upper : c.isUpper = true) : c.isAlpha = true :=
  Bool.or_eq_true_iff.mpr (.inl upper)

theorem isAlphanum_of_isUpper (upper : c.isUpper = true) : c.isAlphanum = true :=
  Bool.or_eq_true_iff.mpr (.inl (isAlpha_of_isUpper upper))

theorem isAlphanum_of_small (small : (c.isLower || c.isDigit) = true) : c.isAlphanum = true := by
  apply Bool.or_eq_true_iff.mpr
  rcases Bool.or_eq_true_iff.mp small with lower | digit
  · exact .inl (Bool.or_eq_true_iff.mpr (.inr lower))
  · exact .inr digit

theorem IsName.isAlphanum (h : IsName name) : ∀ c ∈ name, c.isAlphanum = true := by
  cases h with
  | capital first others => exact List.forall_mem_cons.mpr ⟨isAlphanum_of_isUpper first, others⟩

theorem toUpper_of_isUpper (upper : c.isUpper = true) : c.toUpper = c :=
  Text.ascii_forall (p := fun c => c.isUpper = true → c.toUpper = c) (by decide) c
    (Text.toNat_lt_of_isAlphanum (isAlphanum_of_isUpper upper)) upper

theorem isUpper_toUpper (letter : c.isAlphanum = true) (alpha : c.toUpper.isAlpha = true) :
    c.toUpper.isUpper = true :=
  Text.ascii_forall (p := fun c => c.toUpper.isAlpha = true → c.toUpper.isUpper = true)
    (by decide) c
    (Text.toNat_lt_of_isAlphanum letter) alpha

theorem ne_nil_of_mem_nameWordsAfter {current : List Char} :
    ∀ word ∈ nameWordsAfter current text, word ≠ [] := by
  induction text generalizing current with
  | nil =>
    intro word hw
    unfold nameWordsAfter at hw
    split at hw
    · cases hw
    · rename_i started
      obtain rfl := List.mem_singleton.mp hw
      simpa using started
  | cons c text ih =>
    intro word hw
    unfold nameWordsAfter at hw
    split at hw
    · exact ih word hw
    · split at hw
      · exact ih word hw
      · rename_i started
        rcases List.mem_cons.mp hw with rfl | hw
        · simpa using started
        · exact ih word hw

/-- The words of a name in a row start with a letter or a digit in upper case. -/
theorem exists_toUpper_of_capitalized (h : (nameWords name).flatMap capitalize = c :: rest) :
    ∃ d : Char, d.isAlphanum = true ∧ c = d.toUpper := by
  have letters : ∀ word ∈ nameWordsAfter [] name, ∀ c ∈ word, c.isAlphanum = true :=
    isAlphanum_nameWordsAfter (by simp)
  have full : ∀ word ∈ nameWordsAfter [] name, word ≠ [] := ne_nil_of_mem_nameWordsAfter
  rw [nameWords] at h
  cases found : nameWordsAfter [] name with
  | nil =>
    rw [found] at h
    cases h
  | cons word words =>
    rw [found] at h letters full
    obtain ⟨d, word, rfl⟩ := List.exists_cons_of_ne_nil (full word List.mem_cons_self)
    exact ⟨d, letters _ List.mem_cons_self d List.mem_cons_self, (List.cons.inj h).1.symm⟩

theorem isName_nameOf (text : List Char) : IsName (nameOf text) := by
  have letters := isAlphanum_nameOf text
  unfold nameOf at letters ⊢
  split
  · exact .capital (by decide) (by decide)
  · rename_i c rest h
    rw [h] at letters
    dsimp only at letters
    split
    · rename_i alpha
      obtain ⟨d, letter, rfl⟩ := exists_toUpper_of_capitalized h
      rw [if_pos alpha] at letters
      exact .capital (isUpper_toUpper letter alpha) (List.forall_mem_cons.mp letters).2
    · rename_i digit
      rw [if_neg digit] at letters
      exact .capital (by decide) (List.forall_mem_cons.mp letters).2

theorem nameWordsAfter_append {current : List Char} (letters : ∀ c ∈ text, c.isAlphanum = true)
    (full : current ++ text ≠ []) : nameWordsAfter current text = [current.reverse ++ text] := by
  induction text generalizing current with
  | nil => simpa [nameWordsAfter] using full
  | cons c text ih =>
    obtain ⟨letter, others⟩ := List.forall_mem_cons.mp letters
    unfold nameWordsAfter
    rw [if_pos letter, ih others (by simp)]
    simp

theorem IsName.nameOf_eq (h : IsName name) : nameOf name = name := by
  have word : nameWords name = [name] := by
    refine nameWordsAfter_append h.isAlphanum ?_
    cases h
    simp
  cases h with
  | @capital c rest first others =>
    simp [nameOf, word, capitalize, toUpper_of_isUpper first, isAlpha_of_isUpper first]

/-! ## Words with hyphens between them -/

/-- Words of some characters, with one hyphen between two words. -/
inductive Hyphenated (p : Char → Bool) : List Char → Prop
  | single {c : Char} : p c = true → Hyphenated p [c]
  | cons {c : Char} {rest : List Char} : p c = true → Hyphenated p rest → Hyphenated p (c :: rest)
  | hyphen {c : Char} {rest : List Char} : p c = true → Hyphenated p rest →
    Hyphenated p (c :: '-' :: rest)

theorem hyphenated_of_forall (full : text ≠ []) (h : ∀ c ∈ text, p c = true) :
    Hyphenated p text := by
  induction text with
  | nil => exact absurd rfl full
  | cons c text ih =>
    obtain ⟨first, others⟩ := List.forall_mem_cons.mp h
    cases text with
    | nil => exact .single first
    | cons d text => exact .cons first (ih (List.cons_ne_nil d text) others)

theorem Hyphenated.forall_mem (h : Hyphenated p text) : ∀ c ∈ text, p c = true ∨ c = '-' := by
  induction h with
  | single first => simpa using Or.inl first
  | cons first _ ih => exact List.forall_mem_cons.mpr ⟨.inl first, ih⟩
  | hyphen first _ ih =>
    exact List.forall_mem_cons.mpr ⟨.inl first, List.forall_mem_cons.mpr ⟨.inr rfl, ih⟩⟩

theorem Hyphenated.getLast (h : Hyphenated p text) : ∀ c ∈ text.getLast?, p c = true := by
  induction h with
  | single first => simpa using first
  | @cons c rest _ inner ih =>
    cases inner <;> simpa using ih
  | @hyphen c rest _ inner ih =>
    cases inner <;> simpa using ih

theorem Hyphenated.map (h : Hyphenated p text) {f : Char → Char} (hyphen : f '-' = '-')
    (carries : ∀ c, p c = true → q (f c) = true) : Hyphenated q (text.map f) := by
  induction h with
  | single first => exact .single (carries _ first)
  | cons first _ ih => exact .cons (carries _ first) ih
  | hyphen first _ ih =>
    rw [List.map_cons, List.map_cons, hyphen]
    exact .hyphen (carries _ first) ih

/-! ## Places where words start -/

/-- A rule that parts two words before a capital, where a letter or a digit stands before it. -/
structure Parts (cut : Option Char → Char → Option Char → Bool) : Prop where
  capital : ∀ {before next : Option Char} {c : Char}, cut before c next = true → c.isUpper = true
  behind : ∀ {before next : Option Char} {c : Char}, cut before c next = true →
    ∃ b ∈ before, b.isAlphanum = true

theorem parts_startsAfterSmall : Parts startsAfterSmall where
  capital := by
    intro before c next h
    exact (Bool.and_eq_true_iff.mp h).1
  behind := by
    intro before c next h
    cases before with
    | none => simp [startsAfterSmall] at h
    | some b =>
      have small : (b.isLower || b.isDigit) = true := (Bool.and_eq_true_iff.mp h).2
      exact ⟨b, rfl, isAlphanum_of_small small⟩

theorem parts_startsBeforeSmall : Parts startsBeforeSmall where
  capital := by
    intro before c next h
    exact (Bool.and_eq_true_iff.mp (Bool.and_eq_true_iff.mp h).1).1
  behind := by
    intro before c next h
    cases before with
    | none => simp [startsBeforeSmall] at h
    | some b =>
      have upper := (Bool.and_eq_true_iff.mp (Bool.and_eq_true_iff.mp h).1).2
      exact ⟨b, rfl, isAlphanum_of_isUpper upper⟩

theorem Parts.not_front (h : Parts cut) (c : Char) (next : Option Char) :
    cut none c next = false := by
  rw [Bool.eq_false_iff]
  intro hit
  obtain ⟨b, hb, -⟩ := h.behind hit
  cases hb

theorem Parts.not_hyphen (h : Parts cut) (before next : Option Char) :
    cut before '-' next = false := by
  rw [Bool.eq_false_iff]
  intro hit
  exact absurd (h.capital hit) (by decide)

theorem Parts.not_after_hyphen (h : Parts cut) (c : Char) (next : Option Char) :
    cut (some '-') c next = false := by
  rw [Bool.eq_false_iff]
  intro hit
  obtain ⟨b, hb, letter⟩ := h.behind hit
  obtain rfl := Option.some.inj hb
  exact absurd letter (by decide)

/-- Words stay apart by one hyphen, wherever a rule parts them further. -/
theorem Hyphenated.hyphenateFrom (parts : Parts cut) (h : Hyphenated p (c :: rest)) :
    Hyphenated p (c :: hyphenateFrom cut (some c) rest) := by
  generalize whole : c :: rest = text at h
  induction h generalizing c rest with
  | single first =>
    cases whole
    exact .single first
  | @cons c' rest' first inner ih =>
    obtain ⟨rfl, rfl⟩ := List.cons.inj whole
    cases rest with
    | nil => exact .single first
    | cons d rest =>
      unfold Component.hyphenateFrom
      split
      · exact .hyphen first (ih rfl)
      · exact .cons first (ih rfl)
  | @hyphen c' rest' first inner ih =>
    obtain ⟨rfl, rfl⟩ := List.cons.inj whole
    cases rest' with
    | nil => cases inner
    | cons d rest =>
      have kept : Component.hyphenateFrom cut (some c) ('-' :: d :: rest) =
          '-' :: d :: Component.hyphenateFrom cut (some d) rest := by
        simp [Component.hyphenateFrom, parts.not_hyphen, parts.not_after_hyphen]
      rw [kept]
      exact .hyphen first (ih rfl)

theorem filter_hyphenateFrom (cut : Option Char → Char → Option Char → Bool) (before : Option Char)
    (text : List Char) :
    (hyphenateFrom cut before text).filter (· ≠ '-') = text.filter (· ≠ '-') := by
  induction text generalizing before with
  | nil => rfl
  | cons c text ih =>
    unfold hyphenateFrom
    split
    · rw [List.filter_cons_of_neg (by simp), List.filter_cons, List.filter_cons, ih]
    · rw [List.filter_cons, List.filter_cons, ih]

theorem Parts.hyphenateFrom_eq (h : Parts cut) (before : Option Char)
    (small : ∀ c ∈ text, c.isUpper = false) : hyphenateFrom cut before text = text := by
  induction text generalizing before with
  | nil => rfl
  | cons c text ih =>
    obtain ⟨first, others⟩ := List.forall_mem_cons.mp small
    unfold hyphenateFrom
    split
    · rename_i hit
      rw [h.capital hit] at first
      cases first
    · rw [ih (some c) others]

def parted (name : List Char) : List Char :=
  hyphenateFrom startsBeforeSmall none (hyphenateFrom startsAfterSmall none name)

theorem hyphenated_parted (h : Hyphenated p name) : Hyphenated p (parted name) := by
  have cut {rule : Option Char → Char → Option Char → Bool} (parts : Parts rule) {text : List Char}
      (h : Hyphenated p text) : Hyphenated p (hyphenateFrom rule none text) := by
    cases text with
    | nil => exact h
    | cons c rest =>
      rw [hyphenateFrom, parts.not_front]
      exact h.hyphenateFrom parts
  exact cut parts_startsBeforeSmall (cut parts_startsAfterSmall h)

/-! ## Classes -/

def isSmall (c : Char) : Bool := c.isLower || c.isDigit

/-- Words of small letters and digits with one hyphen between two words, the first of which starts
with a letter. -/
structure IsClass (cls : List Char) : Prop where
  words : Hyphenated isSmall cls
  letter : ∀ c ∈ cls.head?, c.isLower = true

theorem joinRuns_eq (kept : ∀ c ∈ text, isClassChar c = true) : joinRuns false text = text := by
  induction text with
  | nil => rfl
  | cons c text ih =>
    obtain ⟨first, others⟩ := List.forall_mem_cons.mp kept
    rw [joinRuns, if_pos first, ih others]

theorem toLower_of_not_isUpper (small : c.isUpper = false) : c.toLower = c := by
  unfold Char.toLower
  split
  · rename_i upper
    have capital : c.isUpper = true := decide_eq_true upper
    rw [capital] at small
    cases small
  · rfl

theorem isLower_toLower (upper : c.isUpper = true) : c.toLower.isLower = true :=
  Text.ascii_forall (p := fun c => c.isUpper = true → c.toLower.isLower = true) (by decide) c
    (Text.toNat_lt_of_isAlphanum (isAlphanum_of_isUpper upper)) upper

theorem not_isUpper_of_isSmall (small : isSmall c = true) : c.isUpper = false :=
  Text.ascii_forall (p := fun c => isSmall c = true → c.isUpper = false) (by decide) c
    (Text.toNat_lt_of_isAlphanum (isAlphanum_of_small small)) small

theorem isSmall_toLower (letter : c.isAlphanum = true) : isSmall c.toLower = true :=
  Text.ascii_forall (p := fun c => c.isAlphanum = true → isSmall c.toLower = true) (by decide) c
    (Text.toNat_lt_of_isAlphanum letter) letter

theorem not_isUpper_toLower (c : Char) : c.toLower.isUpper = false := by
  cases upper : c.isUpper with
  | true => exact not_isUpper_of_isSmall (by simp [isSmall, isLower_toLower upper])
  | false => rw [toLower_of_not_isUpper upper, upper]

theorem toLower_eq_hyphen_iff : c.toLower = '-' ↔ c = '-' := by
  cases upper : c.isUpper with
  | true =>
    constructor
    · intro same
      exact absurd (same ▸ isLower_toLower upper) (by decide)
    · rintro rfl
      cases upper
  | false => rw [toLower_of_not_isUpper upper]

/-- What holds of a class that is worked out of any text. -/
structure IsSettled (cls : List Char) : Prop where
  filled : cls ≠ []
  kept : ∀ c ∈ cls, isClassChar c = true
  small : ∀ c ∈ cls, c.isUpper = false
  trimmed : trimHyphens cls = cls

theorem classOf_eq_parted (name : List Char) : classOf name =
    match trimHyphens (joinRuns false (parted name)) with
    | [] => defaultClass
    | kept => kept.map Char.toLower := rfl

theorem IsSettled.classOf_eq (h : IsSettled text) : classOf text = text := by
  have whole : parted text = text := by
    rw [parted, parts_startsAfterSmall.hyphenateFrom_eq none h.small,
      parts_startsBeforeSmall.hyphenateFrom_eq none h.small]
  have lowered : text.map Char.toLower = text :=
    (List.map_congr_left fun c hc => toLower_of_not_isUpper (h.small c hc)).trans (List.map_id text)
  rw [classOf_eq_parted, whole, joinRuns_eq h.kept, h.trimmed]
  split
  · exact absurd rfl h.filled
  · exact lowered

theorem trimHyphens_eq (head : ∀ c ∈ text.head?, c ≠ '-') (last : ∀ c ∈ text.getLast?, c ≠ '-') :
    trimHyphens text = text :=
  Text.trimBoth_eq_self (fun c hc => beq_false_of_ne (head c hc))
    (fun c hc => beq_false_of_ne (last c hc))

/-- No class starts or ends with a hyphen, and small letters bring none. -/
theorem trimHyphens_map_toLower (text : List Char) :
    trimHyphens ((trimHyphens text).map Char.toLower) = (trimHyphens text).map Char.toLower := by
  apply trimHyphens_eq
  · intro c hc hyphen
    rw [List.head?_map] at hc
    obtain ⟨d, hd, rfl⟩ := Option.mem_map.mp hc
    have kept := Text.head?_trimBoth (· == '-') text d hd
    exact absurd (toLower_eq_hyphen_iff.mp hyphen) (ne_of_beq_false kept)
  · intro c hc hyphen
    rw [List.getLast?_map] at hc
    obtain ⟨d, hd, rfl⟩ := Option.mem_map.mp hc
    have kept := Text.getLast?_trimBoth (· == '-') text d hd
    exact absurd (toLower_eq_hyphen_iff.mp hyphen) (ne_of_beq_false kept)

theorem isSettled_classOf (text : List Char) : IsSettled (classOf text) where
  filled := classOf_ne_nil text
  kept := isClassChar_classOf text
  small := by
    rw [classOf_eq_parted]
    split
    · decide
    · intro c hc
      obtain ⟨d, -, rfl⟩ := List.mem_map.mp hc
      exact not_isUpper_toLower d
  trimmed := by
    rw [classOf_eq_parted]
    split
    · decide
    · exact trimHyphens_map_toLower _

/-! ## The class of a name -/

theorem Parts.head?_hyphenateFrom (h : Parts cut) (text : List Char) :
    (hyphenateFrom cut none text).head? = text.head? := by
  cases text with
  | nil => rfl
  | cons c rest =>
    rw [hyphenateFrom, h.not_front]
    rfl

theorem Hyphenated.trimHyphens_eq (h : Hyphenated p text) (solid : p '-' = false) :
    trimHyphens text = text := by
  apply Component.trimHyphens_eq
  · rintro c hc rfl
    cases h <;> simp_all
  · rintro c hc rfl
    rw [h.getLast '-' hc] at solid
    cases solid

theorem IsName.hyphenated (h : IsName name) : Hyphenated Char.isAlphanum name := by
  apply hyphenated_of_forall _ h.isAlphanum
  cases h
  exact List.cons_ne_nil _ _

/-- The class of a name in form is the name with its words parted, in small letters. -/
theorem IsName.classOf_eq (h : IsName name) : classOf name = (parted name).map Char.toLower := by
  have words : Hyphenated Char.isAlphanum (parted name) := hyphenated_parted h.hyphenated
  have kept : ∀ c ∈ parted name, isClassChar c = true := fun c hc =>
    isClassChar_iff.mpr (words.forall_mem c hc)
  rw [classOf_eq_parted, joinRuns_eq kept, words.trimHyphens_eq (by decide)]
  split
  · rename_i empty
    rw [empty] at words
    cases words
  · rfl

theorem IsName.isClass (h : IsName name) : IsClass (classOf name) where
  words := by
    rw [h.classOf_eq]
    exact (hyphenated_parted h.hyphenated).map rfl fun c letter => isSmall_toLower letter
  letter := by
    rw [h.classOf_eq, List.head?_map, parted, parts_startsBeforeSmall.head?_hyphenateFrom,
      parts_startsAfterSmall.head?_hyphenateFrom]
    cases h with
    | capital first _ => simpa using isLower_toLower first

theorem IsName.filter_classOf (h : IsName name) :
    (classOf name).filter (· ≠ '-') = Text.lower name := by
  have solid : ∀ c ∈ name, (decide (c ≠ '-')) = true := by
    rintro c hc
    apply decide_eq_true
    rintro rfl
    exact absurd (h.isAlphanum '-' hc) (by decide)
  have same : (fun c : Char => decide (c.toLower ≠ '-')) = fun c => decide (c ≠ '-') := by
    funext c
    simp [toLower_eq_hyphen_iff]
  calc (classOf name).filter (· ≠ '-')
      = ((parted name).filter (· ≠ '-')).map Char.toLower := by
        rw [h.classOf_eq, List.filter_map]
        exact congrArg (fun q => ((parted name).filter q).map Char.toLower) same
    _ = (name.filter (· ≠ '-')).map Char.toLower := by
        rw [parted, filter_hyphenateFrom, filter_hyphenateFrom]
    _ = name.map Char.toLower := by rw [List.filter_eq_self.mpr solid]
    _ = Text.lower name :=
        (Text.lower_of_ascii fun c hc => Text.toNat_lt_of_isAlphanum (h.isAlphanum c hc)).symm

/-! ## Names and classes together -/

/-- What holds of the name of a component and of its class. -/
structure IsStable (name : String) : Prop where
  form : IsName name.toList
  own : nameOfString name = name
  classForm : IsClass (classOfString name).toList
  letters : (classOfString name).toList.filter (· ≠ '-') = Text.lower name.toList

theorem IsName.isStable {name : String} (h : IsName name.toList) : IsStable name where
  form := h
  own := by rw [nameOfString, h.nameOf_eq, String.ofList_toList]
  classForm := by
    rw [classOfString, String.toList_ofList]
    exact h.isClass
  letters := by
    rw [classOfString, String.toList_ofList]
    exact h.filter_classOf

theorem isStable_nameOfString (text : String) : IsStable (nameOfString text) := by
  apply IsName.isStable
  rw [nameOfString, String.toList_ofList]
  exact isName_nameOf text.toList

/-- A name is worked out of any text, or of none, in a form in which it stays: so a generation asks
for the files of a component under the very name that they bear. The class of a name has its letters
in lower case and one hyphen between two words, and the class of any text is its own class. -/
theorem names_stable :
    (∀ raw : Option String, IsStable (nameOfString (raw.getD ""))) ∧
      (∀ text : String, classOfString (classOfString text) = classOfString text) ∧
      ∀ (config : Config) (findings : Generation.Findings),
        (Generation.artifactsOf config findings (Generation.nameFor config findings.source)).map
          Artifacts.name =
          if isBlankText findings.markup then .error .markup
          else .ok (Generation.nameFor config findings.source) := by
  refine ⟨fun raw => isStable_nameOfString _, fun text => ?_, fun config findings => ?_⟩
  · simp [classOfString, (isSettled_classOf text.toList).classOf_eq]
  · have own : nameOfString (Generation.nameFor config findings.source) =
        Generation.nameFor config findings.source := (isStable_nameOfString _).own
    have named : isBlankText (Generation.nameFor config findings.source) = false :=
      isBlankText_nameOfString _
    unfold Generation.artifactsOf synthesize
    rw [named, own]
    dsimp only
    split
    · rename_i impossible
      cases impossible
    · split <;> rfl

example : nameOfString "3d-card" = "Component3dCard" ∧ classOfString "SVGIcon" = "svg-icon" := by
  decide

end Handoff.Component
