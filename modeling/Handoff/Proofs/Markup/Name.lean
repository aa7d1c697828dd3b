import Handoff.Markup.Attribute
import Handoff.Proofs.Text.Blank
import Handoff.Proofs.Text.Scan

/-! # Assigned names

The characters that continue names stand in a text in runs. Renaming an attribute changes those runs
that are the name and that an equals sign follows, and nothing else, so a sequence of renamings is
one map of names.
-/

namespace Handoff.Markup

open Text

/-- A name consists of characters that continue names. -/
structure IsName (name : List Char) : Prop where
  ne_nil : name ≠ []
  continues : ∀ c ∈ name, continuesName c = true

def Parted (text : List Char) : Prop := ∀ c ∈ text.head?, continuesName c = false

/-- The text with each name that an equals sign follows replaced by its image. -/
def mapNames (f : List Char → List Char) : List Char → List Char
  | [] => []
  | c :: rest =>
    if continuesName c then
      let name := c :: rest.takeWhile continuesName
      let after := rest.dropWhile continuesName
      (if isAssigned after then f name else name) ++ mapNames f after
    else c :: mapNames f rest
termination_by text => text.length
decreasing_by
  · simpa using Nat.lt_succ_of_le (List.length_dropWhile_le ..)
  · simp

def assignedNames : List Char → List (List Char)
  | [] => []
  | c :: rest =>
    if continuesName c then
      let after := rest.dropWhile continuesName
      (if isAssigned after then [c :: rest.takeWhile continuesName] else []) ++ assignedNames after
    else assignedNames rest
termination_by text => text.length
decreasing_by
  · simpa using Nat.lt_succ_of_le (List.length_dropWhile_le ..)
  · simp

variable {f g : List Char → List Char} {c : Char} {name rest text : List Char}

/-! ## Runs -/

theorem parted_nil : Parted [] := by simp [Parted]

theorem parted_cons (h : continuesName c = false) : Parted (c :: rest) := by simp [Parted, h]

theorem parted_dropWhile (text : List Char) : Parted (text.dropWhile continuesName) := by
  intro c hc
  have := List.head?_dropWhile_not continuesName text
  rwa [Option.mem_def.mp hc] at this

theorem takeWhile_run (hn : ∀ c ∈ name, continuesName c = true) (hr : Parted rest) :
    (name ++ rest).takeWhile continuesName = name := by
  rw [List.takeWhile_append_of_pos hn]
  cases rest with
  | nil => simp
  | cons c rest => simp [hr c rfl]

theorem dropWhile_run (hn : ∀ c ∈ name, continuesName c = true) (hr : Parted rest) :
    (name ++ rest).dropWhile continuesName = rest := by
  rw [List.dropWhile_append_of_pos hn]
  cases rest with
  | nil => simp
  | cons c rest => simp [hr c rfl]

@[simp] theorem mapNames_nil (f : List Char → List Char) : mapNames f [] = [] := by
  simp [mapNames]

theorem mapNames_cons (f : List Char → List Char) (h : continuesName c = false)
    (rest : List Char) : mapNames f (c :: rest) = c :: mapNames f rest := by
  rw [mapNames]; simp [h]

theorem mapNames_run (f : List Char → List Char) (hn : IsName name) (hr : Parted rest) :
    mapNames f (name ++ rest) =
      (if isAssigned rest then f name else name) ++ mapNames f rest := by
  obtain ⟨ne, hc⟩ := hn
  cases name with
  | nil => exact absurd rfl ne
  | cons c name =>
    have hc' : ∀ d ∈ name, continuesName d = true := fun d hd => hc d (by simp [hd])
    rw [List.cons_append, mapNames]
    simp [hc c, takeWhile_run hc' hr, dropWhile_run hc' hr]

@[simp] theorem assignedNames_nil : assignedNames [] = [] := by simp [assignedNames]

theorem assignedNames_cons (h : continuesName c = false) (rest : List Char) :
    assignedNames (c :: rest) = assignedNames rest := by
  rw [assignedNames]; simp [h]

theorem assignedNames_run (hn : IsName name) (hr : Parted rest) :
    assignedNames (name ++ rest) =
      (if isAssigned rest then [name] else []) ++ assignedNames rest := by
  obtain ⟨ne, hc⟩ := hn
  cases name with
  | nil => exact absurd rfl ne
  | cons c name =>
    have hc' : ∀ d ∈ name, continuesName d = true := fun d hd => hc d (by simp [hd])
    rw [List.cons_append, assignedNames]
    simp [hc c, takeWhile_run hc' hr, dropWhile_run hc' hr]

/-- Every text is read as single characters between names and as names that cannot go on. -/
theorem run_induction {motive : List Char → Prop} (nil : motive [])
    (cons : ∀ c rest, continuesName c = false → motive rest → motive (c :: rest))
    (run : ∀ name rest, IsName name → Parted rest → motive rest → motive (name ++ rest))
    (text : List Char) : motive text := by
  induction h : text.length using Nat.strongRecOn generalizing text with
  | ind n ih =>
    subst h
    cases text with
    | nil => exact nil
    | cons c rest =>
      cases hc : continuesName c with
      | false => exact cons c rest hc (ih rest.length (by simp) rest rfl)
      | true =>
        have split := (List.takeWhile_append_dropWhile (p := continuesName) (l := rest)).symm
        rw [split, ← List.cons_append]
        refine run _ _ ⟨by simp, ?_⟩ (parted_dropWhile rest) (ih _ ?_ _ rfl)
        · intro d hd
          rcases List.mem_cons.mp hd with rfl | hd
          · exact hc
          · exact List.mem_takeWhile_imp hd
        · simpa using Nat.lt_succ_of_le (List.length_dropWhile_le ..)

/-! ## Maps of names -/

def KeepsNames (f : List Char → List Char) : Prop := ∀ name, IsName name → IsName (f name)

theorem isSpace_of_continues (h : continuesName c = true) : isSpace c = false := by
  by_contra space
  have word := isWord_of_isSpace (by simpa using space)
  simp only [continuesName, word, Bool.false_or, Bool.or_eq_true, beq_iff_eq] at h
  rcases h with rfl | rfl <;> exact space (by decide)

theorem continuesName_of_isSpace (h : isSpace c = true) : continuesName c = false := by
  by_contra continues
  exact ne_true_of_eq_false (isSpace_of_continues (by simpa using continues)) h

theorem isAssigned_cons_space (h : isSpace c = true) (rest : List Char) :
    isAssigned (c :: rest) = isAssigned rest := by
  simp [isAssigned, h]

theorem isAssigned_cons (h : isSpace c = false) (rest : List Char) :
    isAssigned (c :: rest) = (c == '=') := by
  simp [isAssigned, h]

theorem isAssigned_name (hn : IsName name) (rest : List Char) :
    isAssigned (name ++ rest) = false := by
  obtain ⟨ne, hc⟩ := hn
  cases name with
  | nil => exact absurd rfl ne
  | cons c name =>
    have hc := hc c (by simp)
    rw [List.cons_append, isAssigned_cons (isSpace_of_continues hc)]
    by_contra eq
    obtain rfl : c = '=' := by simpa using eq
    exact absurd hc (by decide)

theorem parted_of_isAssigned (h : isAssigned text = true) : Parted text := by
  intro c hc
  by_contra hn
  obtain ⟨rest, rfl⟩ := List.head?_eq_some_iff.mp hc
  have single : IsName [c] := ⟨by simp, by simpa using hn⟩
  have := isAssigned_name single rest
  simp_all

theorem isAssigned_mapNames (hf : KeepsNames f) (text : List Char) :
    isAssigned (mapNames f text) = isAssigned text := by
  induction text using run_induction with
  | nil => simp
  | cons c rest hc ih =>
    rw [mapNames_cons f hc]
    cases hs : isSpace c with
    | true => rw [isAssigned_cons_space hs, isAssigned_cons_space hs, ih]
    | false => rw [isAssigned_cons hs, isAssigned_cons hs]
  | run name rest hn hr ih =>
    rw [mapNames_run f hn hr, isAssigned_name hn]
    split
    · exact isAssigned_name (hf name hn) _
    · exact isAssigned_name hn _

theorem Parted.mapNames (h : Parted text) : Parted (mapNames f text) := by
  cases text with
  | nil => simpa using parted_nil
  | cons c rest =>
    have hc : continuesName c = false := h c rfl
    rw [mapNames_cons f hc]
    exact parted_cons hc

theorem mapNames_mapNames (hf : KeepsNames f) (g : List Char → List Char) (text : List Char) :
    mapNames g (mapNames f text) = mapNames (g ∘ f) text := by
  induction text using run_induction with
  | nil => simp
  | cons c rest hc ih => rw [mapNames_cons f hc, mapNames_cons g hc, mapNames_cons _ hc, ih]
  | run name rest hn hr ih =>
    rw [mapNames_run f hn hr, mapNames_run _ hn hr]
    split
    case isTrue h =>
      rw [mapNames_run g (hf name hn) hr.mapNames, isAssigned_mapNames hf, if_pos h, ih]; rfl
    case isFalse h => rw [mapNames_run g hn hr.mapNames, isAssigned_mapNames hf, if_neg h, ih]

theorem assignedNames_mapNames (hf : KeepsNames f) (text : List Char) :
    assignedNames (mapNames f text) = (assignedNames text).map f := by
  induction text using run_induction with
  | nil => simp
  | cons c rest hc ih => rw [mapNames_cons f hc, assignedNames_cons hc, assignedNames_cons hc, ih]
  | run name rest hn hr ih =>
    rw [mapNames_run f hn hr, assignedNames_run hn hr]
    split
    case isTrue h =>
      rw [assignedNames_run (hf name hn) hr.mapNames, isAssigned_mapNames hf, if_pos h, ih]; rfl
    case isFalse h =>
      rw [assignedNames_run hn hr.mapNames, isAssigned_mapNames hf, if_neg h, ih]; rfl

theorem mapNames_eq_self (h : ∀ name ∈ assignedNames text, f name = name) :
    mapNames f text = text := by
  induction text using run_induction with
  | nil => simp
  | cons c rest hc ih =>
    rw [assignedNames_cons hc] at h
    rw [mapNames_cons f hc, ih h]
  | run name rest hn hr ih =>
    rw [assignedNames_run hn hr] at h
    rw [mapNames_run f hn hr, ih fun name hm => h name (List.mem_append_right _ hm)]
    split
    case isTrue ha => rw [h name (by simp [ha])]
    case isFalse => rfl

theorem getLast?_mapNames (f : List Char → List Char) (text : List Char) :
    (mapNames f text).getLast? = text.getLast? := by
  induction text using run_induction with
  | nil => simp
  | cons c rest hc ih => rw [mapNames_cons f hc, List.getLast?_cons, List.getLast?_cons, ih]
  | run name rest hn hr ih =>
    rw [mapNames_run f hn hr, List.getLast?_append, List.getLast?_append, ih]
    cases rest with
    | nil => simp [isAssigned]
    | cons c rest => simp [List.getLast?_cons]

theorem not_mem_mapNames (hf : KeepsNames f) (hc : continuesName c = false) (h : c ∉ text) :
    c ∉ mapNames f text := by
  induction text using run_induction with
  | nil => simp
  | cons d rest hd ih =>
    obtain ⟨first, others⟩ := not_or.mp (List.mem_cons.not.mp h)
    rw [mapNames_cons f hd]
    exact List.mem_cons.not.mpr (not_or.mpr ⟨first, ih others⟩)
  | run name rest hn hr ih =>
    have apart {name : List Char} (hn : IsName name) : c ∉ name := fun hm => by
      simp [hn.continues c hm] at hc
    rw [mapNames_run f hn hr, List.mem_append, not_or]
    refine ⟨?_, ih fun hm => h (List.mem_append_right _ hm)⟩
    split
    · exact apart (hf name hn)
    · exact apart hn

/-! ## Names on two sides of a seam -/

/-- A character that neither stands in a name nor between a name and its equals sign. -/
structure IsBar (c : Char) : Prop where
  parts : continuesName c = false
  space : isSpace c = false
  ne : c ≠ '='

variable {x y : List Char}

theorem Parted.append (hx : Parted x) (hy : Parted y) : Parted (x ++ y) := by
  cases x with
  | nil => exact hy
  | cons c x => exact parted_cons (hx c rfl)

theorem spaces_or_solid (text : List Char) :
    (∀ c ∈ text, isSpace c = true) ∨ ∃ c ∈ text, isSpace c = false := by
  by_cases h : ∃ c ∈ text, isSpace c = false
  · exact .inr h
  · push Not at h
    exact .inl fun c hc => by simpa using h c hc

/-- What stands behind spaces alone is behind what stands before the spaces. -/
theorem isAssigned_append_of_spaces (h : ∀ c ∈ x, isSpace c = true) (y : List Char) :
    isAssigned (x ++ y) = isAssigned y := by
  rw [isAssigned, List.dropWhile_append_of_pos h, isAssigned]

theorem isAssigned_spaces (h : ∀ c ∈ x, isSpace c = true) : isAssigned x = false := by
  rw [← List.append_nil x, isAssigned_append_of_spaces h]
  rfl

/-- Behind more than spaces, nothing is seen any more. -/
theorem isAssigned_append_of_solid (h : ∃ c ∈ x, isSpace c = false) (y : List Char) :
    isAssigned (x ++ y) = isAssigned x := by
  obtain ⟨c, hc, solid⟩ := h
  have ne : x.dropWhile isSpace ≠ [] := fun he =>
    ne_true_of_eq_false solid (List.dropWhile_eq_nil_iff.mp he c hc)
  rw [isAssigned, List.dropWhile_append, if_neg (by simpa using ne),
    List.head?_append_of_ne_nil _ ne, isAssigned]

theorem isAssigned_append (hx : isAssigned x = false) (hy : isAssigned y = false) :
    isAssigned (x ++ y) = false := by
  rcases spaces_or_solid x with spaces | solid
  · rw [isAssigned_append_of_spaces spaces, hy]
  · rw [isAssigned_append_of_solid solid, hx]

theorem isAssigned_append_cons (h : isSpace c = false) (x y : List Char) :
    isAssigned (x ++ c :: y) = isAssigned (x ++ [c]) := by
  rw [List.append_cons]
  exact isAssigned_append_of_solid ⟨c, by simp, h⟩ y

theorem isAssigned_append_bar (hb : IsBar c) (x y : List Char) :
    isAssigned (x ++ c :: y) = isAssigned x := by
  rcases spaces_or_solid x with spaces | solid
  · rw [isAssigned_append_of_spaces spaces, isAssigned_cons hb.space, isAssigned_spaces spaces]
    exact beq_false_of_ne hb.ne
  · exact isAssigned_append_of_solid solid _

theorem isAssigned_of_not_mem (h : '=' ∉ x) : isAssigned x = false := by
  refine beq_false_of_ne fun he => h ?_
  exact (List.dropWhile_sublist _).subset (List.mem_of_head? he)

theorem mapNames_append_bar (f : List Char → List Char) (hb : IsBar c) (x y : List Char) :
    mapNames f (x ++ c :: y) = mapNames f x ++ c :: mapNames f y := by
  induction x using run_induction with
  | nil => rw [mapNames_nil, List.nil_append, List.nil_append, mapNames_cons f hb.parts]
  | cons d rest hd ih => rw [List.cons_append, mapNames_cons f hd, mapNames_cons f hd, ih]; rfl
  | run name rest hn hr ih =>
    rw [List.append_assoc, mapNames_run f hn (hr.append (parted_cons hb.parts)),
      isAssigned_append_bar hb, mapNames_run f hn hr, ih, List.append_assoc]

/-- Renaming before an equals sign does not depend on what follows it. -/
theorem mapNames_append_equals (f : List Char → List Char) (x y : List Char) :
    mapNames f (x ++ '=' :: y) = mapNames f (x ++ ['=']) ++ mapNames f y := by
  have parts : continuesName '=' = false := by decide
  have space : isSpace '=' = false := by decide
  induction x using run_induction with
  | nil =>
    rw [List.nil_append, List.nil_append, mapNames_cons f parts, mapNames_cons f parts,
      mapNames_nil]
    rfl
  | cons d rest hd ih =>
    rw [List.cons_append, List.cons_append, mapNames_cons f hd, mapNames_cons f hd, ih,
      List.cons_append]
  | run name rest hn hr ih =>
    rw [List.append_assoc, List.append_assoc, mapNames_run f hn (hr.append (parted_cons parts)),
      mapNames_run f hn (hr.append (parted_cons parts)), isAssigned_append_cons space, ih,
      List.append_assoc]

theorem mapNames_append_of_not_mem (f : List Char → List Char) (hx : '=' ∉ x)
    (hy : isAssigned y = false) (hp : Parted y) : mapNames f (x ++ y) = x ++ mapNames f y := by
  induction x using run_induction with
  | nil => rfl
  | cons c rest hc ih =>
    rw [List.cons_append, mapNames_cons f hc, ih fun hm => hx (List.mem_cons_of_mem c hm),
      List.cons_append]
  | run name rest hn hr ih =>
    have hrest : '=' ∉ rest := fun hm => hx (List.mem_append_right _ hm)
    rw [List.append_assoc, mapNames_run f hn (hr.append hp),
      isAssigned_append (isAssigned_of_not_mem hrest) hy, if_neg Bool.false_ne_true, ih hrest,
      List.append_assoc]

theorem mapNames_append_parted (f : List Char → List Char)
    (hx : ∀ c ∈ x, continuesName c = false) (y : List Char) :
    mapNames f (x ++ y) = x ++ mapNames f y := by
  induction x with
  | nil => rfl
  | cons c x ih =>
    obtain ⟨hc, hx⟩ := List.forall_mem_cons.mp hx
    rw [List.cons_append, mapNames_cons f hc, ih hx, List.cons_append]

theorem mapNames_append_spaces (f : List Char → List Char) (x : List Char) {gap : List Char}
    (hg : ∀ c ∈ gap, isSpace c = true) : mapNames f (x ++ gap) = mapNames f x ++ gap := by
  have apart : ∀ c ∈ gap, continuesName c = false := fun c hc => continuesName_of_isSpace (hg c hc)
  have alone : mapNames f gap = gap := by
    simpa using mapNames_append_parted f apart []
  have unseen (y : List Char) : isAssigned (y ++ gap) = isAssigned y := by
    rcases spaces_or_solid y with spaces | solid
    · rw [isAssigned_append_of_spaces spaces, isAssigned_spaces hg, isAssigned_spaces spaces]
    · exact isAssigned_append_of_solid solid gap
  induction x using run_induction with
  | nil => rw [List.nil_append, alone, mapNames_nil, List.nil_append]
  | cons c rest hc ih => rw [List.cons_append, mapNames_cons f hc, mapNames_cons f hc, ih]; rfl
  | run name rest hn hr ih =>
    have parted : Parted gap := fun c hc => apart c (List.mem_of_head? hc)
    rw [List.append_assoc, mapNames_run f hn (hr.append parted), mapNames_run f hn hr, unseen, ih,
      List.append_assoc]

/-- A mark without characters of names stands in front of a text as in front of its image. -/
theorem isPrefixOf_mapNames (hf : KeepsNames f) {mark : List Char}
    (hm : ∀ c ∈ mark, continuesName c = false) (text : List Char) :
    mark.isPrefixOf (mapNames f text) = mark.isPrefixOf text := by
  induction mark generalizing text with
  | nil => simp
  | cons c mark ih =>
    obtain ⟨hc, hm⟩ := List.forall_mem_cons.mp hm
    have apart {name : List Char} (hn : IsName name) (rest : List Char) :
        (c :: mark).isPrefixOf (name ++ rest) = false := by
      obtain ⟨d, name, rfl⟩ := List.exists_cons_of_ne_nil hn.ne_nil
      have ne : c ≠ d := by
        rintro rfl
        simp [hn.continues c (by simp)] at hc
      simp [List.isPrefixOf, ne]
    induction text using run_induction with
    | nil => rw [mapNames_nil]
    | cons d rest hd _ => rw [mapNames_cons f hd, List.isPrefixOf, List.isPrefixOf, ih hm]
    | run name rest hn hr _ =>
      rw [mapNames_run f hn hr, apart hn]
      split
      · exact apart (hf name hn) _
      · exact apart hn _

/-! ## Renaming -/

/-- The image of a name when one name is given up for another. -/
def swapName (source target name : List Char) : List Char := if name = source then target else name

theorem run_unique {a b x y : List Char} (ha : IsName a) (hb : IsName b) (hx : Parted x)
    (hy : Parted y) (h : a ++ x = b ++ y) : a = b ∧ x = y := by
  constructor
  · rw [← takeWhile_run ha.continues hx, h, takeWhile_run hb.continues hy]
  · rw [← dropWhile_run ha.continues hx, h, dropWhile_run hb.continues hy]

theorem canStartName_some (c : Char) : canStartName (some c) = !continuesName c := rfl

section Rename

variable {source target : List Char} {before : Option Char}

/-- What a part of a text becomes when an attribute gets another name. -/
def renamedPart (target : List Char) : Part → List Char
  | .taken _ => target
  | .passed c => [c]

theorem attributeNamed_cons (hs : IsName source) (hc : continuesName c = false) :
    attributeNamed source before (c :: rest) = none := by
  cases source with
  | nil => exact absurd rfl hs.ne_nil
  | cons d source =>
    have hd := hs.continues d (by simp)
    have ne : d ≠ c := by rintro rfl; simp [hd] at hc
    simp [attributeNamed, List.isPrefixOf, ne]

theorem attributeNamed_run (hs : IsName source) (hn : IsName name) (hr : Parted rest)
    (hb : canStartName before = true) :
    attributeNamed source before (name ++ rest) =
      if name = source ∧ isAssigned rest = true then some rest else none := by
  split
  case isTrue h =>
    obtain ⟨rfl, ha⟩ := h
    have start : name.isPrefixOf (name ++ rest) = true := by simp
    simp [attributeNamed, hb, ha]
  case isFalse h =>
    by_cases start : source.isPrefixOf (name ++ rest) = true
    · obtain ⟨tail, ht⟩ := List.isPrefixOf_iff_prefix.mp start
      rw [attributeNamed, ← ht, List.drop_left]
      cases ha : isAssigned tail with
      | false => simp
      | true =>
        obtain ⟨rfl, rfl⟩ := run_unique hs hn (parted_of_isAssigned ha) hr ht
        exact absurd ⟨rfl, ha⟩ h
    · simp [attributeNamed, start]

theorem partsFrom_inside (source : List Char) (hb : canStartName before = false)
    (hn : ∀ c ∈ name, continuesName c = true) (rest : List Char) :
    (partsFrom (attributeNamed source) before 0 (name ++ rest)).flatMap (renamedPart target) =
      name ++ (partsFrom (attributeNamed source) (lastOr before name) 0 rest).flatMap
        (renamedPart target) := by
  induction name generalizing before with
  | nil => rfl
  | cons c name ih =>
    have refused : (attributeNamed source before).length (c :: (name ++ rest)) = 0 := by
      simp [Recogniser.length, attributeNamed, hb]
    have hc : canStartName (some c) = false := by simp [canStartName_some, hn c]
    rw [List.cons_append, partsFrom, refused, lastOr_cons]
    simp only [List.flatMap_cons, renamedPart, List.singleton_append]
    rw [ih hc fun d hd => hn d (by simp [hd]), List.cons_append]

theorem partsFrom_renamed (hs : IsName source) (before : Option Char) (text : List Char)
    (h : canStartName before = true ∨ Parted text) :
    (partsFrom (attributeNamed source) before 0 text).flatMap (renamedPart target) =
      mapNames (swapName source target) text := by
  induction text using run_induction generalizing before with
  | nil => simp [partsFrom]
  | cons c rest hc ih =>
    have refused : (attributeNamed source before).length (c :: rest) = 0 := by
      rw [Recogniser.length, attributeNamed_cons hs hc]
    rw [partsFrom, refused, mapNames_cons _ hc, ← ih (some c)]
    · rfl
    · exact Or.inl (by simp [canStartName_some, hc])
  | run name rest hn hr ih =>
    obtain ⟨c, tail, rfl⟩ := List.exists_cons_of_ne_nil hn.ne_nil
    have hc := hn.continues c (by simp)
    have hb : canStartName before = true := by
      rcases h with h | h
      · exact h
      · exact absurd (h c rfl) (by simp [hc])
    have found := attributeNamed_run hs hn hr hb
    rw [mapNames_run _ hn hr, List.cons_append, partsFrom, ← List.cons_append]
    split at found
    case isTrue he =>
      obtain ⟨rfl, ha⟩ := he
      have length : (attributeNamed (c :: tail) before).length (c :: tail ++ rest) =
          tail.length + 1 := by
        rw [Recogniser.length, found]; simp; omega
      rw [length]
      simp only [List.flatMap_cons, renamedPart, partsFrom_skip]
      rw [ih _ (Or.inr hr), if_pos ha, swapName, if_pos rfl]
    case isFalse he =>
      have refused : (attributeNamed source before).length (c :: tail ++ rest) = 0 := by
        rw [Recogniser.length, found]
      have kept : (if isAssigned rest then swapName source target (c :: tail) else c :: tail) =
          c :: tail := by
        split
        case isTrue ha => rw [swapName, if_neg fun e => he ⟨e, ha⟩]
        case isFalse => rfl
      rw [refused, kept]
      simp only [List.flatMap_cons, renamedPart, List.singleton_append]
      rw [partsFrom_inside source (by simp [canStartName_some, hc])
        (fun d hd => hn.continues d (by simp [hd])), ih _ (Or.inr hr), List.cons_append]

theorem rename_eq_mapNames (hs : IsName source) (target text : List Char) :
    rename source target text = mapNames (swapName source target) text := by
  rw [← partsFrom_renamed hs none text (Or.inl rfl), rename, replaceWith, parts]
  congr 1

end Rename

end Handoff.Markup
